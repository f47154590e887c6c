import Readiness.Proofs.Tunnel.Lines
import Readiness.Proofs.Tunnel.Stages

/-!
# Voices — what it means to a worker that the sink breaks down

* `Relay.Unbroken`: the sink took all lines of an actor; the lines of others and lines that it takes
  keep it so;
* `Relay.Uttered` has one rule for each way in which the step of a worker writes;
* `Relay.Voice`: a worker on whose line the sink broke down has ended in a panic with this line, and
  one that told its caller that it is ready panics for no other reason. `Relay.voice_run`: this holds
  in every run.
-/

namespace Readiness

namespace Relay

variable {σ : Type} {surroundings : Surroundings σ} {sink : Sink} {relay before after : Relay σ}
  {move : Move} {actor other : Actor} {index : Nat} {tunnel next : Tunnel} {line text : String}

/-! ## Lines that were taken -/

/-- The sink broke down on no line of an actor. -/
def Unbroken (sink : Sink) (relay : Relay σ) (actor : Actor) : Prop :=
  ∀ line, ¬ BrokeOn sink relay actor line

namespace Unbroken

theorem of_lines_eq (h : Unbroken sink before actor) (same : after.lines = before.lines) :
    Unbroken sink after actor :=
  fun line broke => h line (broke.of_lines_eq same)

theorem of_said_nil (silent : relay.said actor = []) : Unbroken sink relay actor := by
  intro line broke
  have hmem := broke.mem_said
  rw [silent] at hmem
  cases hmem

/-- A line that the sink takes is one more. -/
theorem write (h : Unbroken sink before actor)
    (lines : after.lines = (before.write actor text).lines)
    (taken : before.refusal? sink text = none) : Unbroken sink after actor := by
  intro line broke
  rcases broke.split lines with hbefore | ⟨front, rear, hmore, hrefusal⟩
  · exact h line hbefore
  · cases front with
    | nil =>
        cases hmore
        rw [List.append_nil] at hrefusal
        have hnone : sink.refusal (before.lines.map (·.2)) text = none := taken
        rw [hnone] at hrefusal
        cases hrefusal
    | cons first front =>
        rw [List.cons_append, List.cons.injEq] at hmore
        exact absurd hmore.2.symm (List.append_ne_nil_of_right_ne_nil _ (List.cons_ne_nil _ _))

/-- Only the moves in which an actor speaks can change what became of its lines. -/
theorem perform (h : Unbroken sink relay actor) (silent : move.speaker? ≠ some actor) :
    Unbroken sink (relay.perform surroundings move) actor :=
  fun line broke =>
    h line (broke.of_said_eq (lines_perform relay surroundings move) (said_perform silent))

end Unbroken

/-! ## The lines of workers -/

/-- What the step of a worker writes, and what becomes of its tunnel. -/
inductive Uttered (sink : Sink) (before after : Relay σ) (index : Nat) (tunnel next : Tunnel) : Prop
  -- A worker that panics without a line has not told anything before.
  | silent (lines : after.lines = before.lines)
      (kept : next = tunnel ∨ isEarly tunnel.phase = true ∧
        ∀ reason, next.phase = .ended (.panicked reason) → next.word = tunnel.word)
  | taken (line : String) (lines : after.lines = (before.write (.worker index) line).lines)
      (taken : before.refusal? sink line = none)
      (sound : ∀ reason, next.phase ≠ .ended (.panicked reason))
  | refused (line reason : String) (lines : after.lines = (before.write (.worker index) line).lines)
      (refusal : before.refusal? sink line = some reason)
      (phase : next.phase = .ended (.panicked reason))

section Workers

variable (surroundings : Surroundings σ) (found : relay.tunnels[index]? = some tunnel)

include found

theorem greet_utters :
    ∃ next, (relay.greet surroundings index tunnel).tunnels[index]? = some next ∧
      Uttered surroundings.sink relay (relay.greet surroundings index tunnel) index tunnel next := by
  have hbound := (List.getElem?_eq_some_iff.1 found).1
  have hwritten : (relay.write (.worker index) tunnel.forwardingLine).tunnels[index]? =
      some tunnel := found
  cases hrefusal : relay.refusal? surroundings.sink tunnel.forwardingLine with
  | some reason =>
      simp only [greet, hrefusal]
      exact ⟨_, tunnel_of_core (core_leave _ hwritten) hbound, .refused _ reason rfl hrefusal rfl⟩
  | none =>
      cases hstopped : tunnel.stopped with
      | true =>
          simp only [greet, hrefusal, hstopped, if_true]
          exact ⟨_, tunnel_of_core (core_finish_leave .closed .finished hwritten rfl) hbound,
            .taken _ rfl hrefusal fun _ panicked => by cases panicked⟩
      | false =>
          simp only [greet, hrefusal, hstopped, Bool.false_eq_true, if_false]
          exact ⟨_, tunnel_of_core (core_updateTunnel _ hwritten) hbound,
            .taken _ rfl hrefusal fun _ panicked => by cases panicked⟩

theorem fail_utters (reason : String) :
    ∃ next, (relay.fail surroundings.sink index tunnel reason).tunnels[index]? = some next ∧
      Uttered surroundings.sink relay (relay.fail surroundings.sink index tunnel reason) index tunnel
        next := by
  have hbound := (List.getElem?_eq_some_iff.1 found).1
  have hwritten : (relay.write (.worker index) (Tunnel.errorLine reason)).tunnels[index]? =
      some tunnel := found
  cases hrefusal : relay.refusal? surroundings.sink (Tunnel.errorLine reason) with
  | some panic =>
      simp only [fail, hrefusal]
      exact ⟨_, tunnel_of_core (core_leave _ hwritten) hbound, .refused _ panic rfl hrefusal rfl⟩
  | none =>
      have hleft := core_finish_leave (.failed reason) .finished hwritten rfl
      simp only [fail, hrefusal]
      exact ⟨_, tunnel_of_core (core_updateTunnel_again _ hleft hbound) hbound,
        .taken _ rfl hrefusal fun _ panicked => by cases panicked⟩

theorem halt_utters (line : String) (state : TunnelState) {how : WorkerEnd}
    (sound : ∀ reason, how ≠ .panicked reason) :
    ∃ next, (relay.halt surroundings.sink index tunnel line state how).tunnels[index]? = some next ∧
      Uttered surroundings.sink relay (relay.halt surroundings.sink index tunnel line state how) index
        tunnel next := by
  have hbound := (List.getElem?_eq_some_iff.1 found).1
  have hfreed : ((relay.giveUp tunnel.grant).write (.worker index) line).tunnels[index]? =
      some tunnel := found
  cases hrefusal : relay.refusal? surroundings.sink line with
  | some reason =>
      simp only [halt, hrefusal]
      exact ⟨_, tunnel_of_core (core_updateTunnel _ hfreed) hbound,
        .refused _ reason rfl hrefusal rfl⟩
  | none =>
      simp only [halt, hrefusal]
      refine ⟨_, tunnel_of_core (core_finish_retire state how hfreed) hbound,
        .taken _ rfl hrefusal fun reason panicked => ?_⟩
      cases panicked
      exact sound reason rfl

theorem becomeReady_utters (early : isEarly tunnel.phase = true) :
    ∃ next, (relay.becomeReady index tunnel).tunnels[index]? = some next ∧
      Uttered surroundings.sink relay (relay.becomeReady index tunnel) index tunnel next := by
  have hbound := (List.getElem?_eq_some_iff.1 found).1
  have hshown : (relay.publish index .ready).core =
      relay.core.withTunnel index { tunnel with history := .ready :: tunnel.history } :=
    core_updateTunnel _ found
  by_cases howner : tunnel.owner = .opening
  · simp only [becomeReady, howner, if_true]
    exact ⟨_, tunnel_of_core (core_updateTunnel_again _ hshown hbound) hbound,
      .silent rfl (.inr ⟨early, fun _ panicked => by cases panicked⟩)⟩
  · have hfound := tunnel_of_core hshown hbound
    have hlater := (List.getElem?_eq_some_iff.1 hfound).1
    simp only [becomeReady, howner, if_false]
    exact ⟨_, tunnel_of_core (core_finish_leave .closed .finished hfound (Eq.refl tunnel.grant))
      hlater, .silent rfl (.inr ⟨early, fun _ panicked => by cases panicked⟩)⟩

theorem runWorker_utters :
    ∃ next, (relay.runWorker surroundings index).tunnels[index]? = some next ∧
      Uttered surroundings.sink relay (relay.runWorker surroundings index) index tunnel next := by
  have hbound := (List.getElem?_eq_some_iff.1 found).1
  simp only [runWorker, found]
  cases phase : tunnel.phase with
  | spawned => exact greet_utters surroundings found
  | probing ends verdict events =>
      have early : isEarly tunnel.phase = true := by
        rw [phase]
        rfl
      dsimp only
      split
      · exact ⟨_, tunnel_of_core (core_finish_leave .closed .finished found rfl) hbound,
          .silent rfl (.inr ⟨early, fun _ panicked => by cases panicked⟩)⟩
      · split
        · exact ⟨tunnel, found, .silent rfl (.inl rfl)⟩
        · have hnoted : (relay.note events).tunnels[index]? = some tunnel := found
          exact ⟨_, tunnel_of_core (core_updateTunnel _ hnoted) hbound,
            .silent rfl (.inr ⟨early, fun _ panicked => by cases panicked⟩)⟩
  | decided verdict =>
      have early : isEarly tunnel.phase = true := by
        rw [phase]
        rfl
      cases verdict with
      | ready => exact becomeReady_utters surroundings found early
      | failed reason => exact fail_utters surroundings found reason
      | panicked reason =>
          exact ⟨_, tunnel_of_core (core_leave _ found) hbound,
            .silent rfl (.inr ⟨early, fun _ _ => rfl⟩)⟩
  | forwarding =>
      dsimp only
      split
      · exact halt_utters surroundings found _ _ fun _ panicked => by cases panicked
      · exact ⟨tunnel, found, .silent rfl (.inl rfl)⟩
  | ended how => exact ⟨tunnel, found, .silent rfl (.inl rfl)⟩

theorem failAccept_utters (reason : String) :
    ∃ next, (relay.failAccept surroundings index reason).tunnels[index]? = some next ∧
      Uttered surroundings.sink relay (relay.failAccept surroundings index reason) index tunnel
        next := by
  simp only [failAccept, found]
  split
  · exact halt_utters surroundings found _ _ fun _ panicked => by cases panicked
  · exact ⟨tunnel, found, .silent rfl (.inl rfl)⟩

/-- Whatever makes a worker speak, it utters its lines in one of these ways. -/
theorem perform_utters (speaks : move.speaker? = some (.worker index)) :
    ∃ next, (relay.perform surroundings move).tunnels[index]? = some next ∧
      Uttered surroundings.sink relay (relay.perform surroundings move) index tunnel next := by
  cases move with
  | act action =>
      cases action with
      | worker place =>
          cases speaks
          exact runWorker_utters surroundings found
      | _ => cases speaks
  | failAccept place reason =>
      cases speaks
      exact failAccept_utters surroundings found reason
  | _ => cases speaks

end Workers

/-- A step by which no worker speaks leaves how far the worker is and what it has told. -/
theorem Step.of_silent (step : Step surroundings before after index tunnel move next)
    (silent : move.speaker? ≠ some (.worker index)) :
    next.phase = tunnel.phase ∧ next.word = tunnel.word := by
  cases step with
  | probed phase own offset verdict events outcome dials =>
      rw [own] at silent
      exact absurd rfl silent
  | turned turn => cases turn <;> first | exact ⟨rfl, rfl⟩ | exact absurd rfl silent
  | ended ending => cases ending <;> exact absurd rfl silent

/-! ## Voices -/

/-- What became of the lines of a worker, as far as its tunnel shows it. -/
inductive Voice (sink : Sink) (relay : Relay σ) (index : Nat) (tunnel : Tunnel) : Prop
  | intact (unbroken : Unbroken sink relay (.worker index))
      (sound : ∀ reason, tunnel.phase = .ended (.panicked reason) → tunnel.word ≠ some (.ok ()))
  | broken (reason line : String) (phase : tunnel.phase = .ended (.panicked reason))
      (last : (relay.said (.worker index)).getLast? = some line)
      (broke : BrokeOn sink relay (.worker index) line)

theorem Voice.keep (h : Voice surroundings.sink relay index tunnel)
    (silent : move.speaker? ≠ some (.worker index)) (phase : next.phase = tunnel.phase)
    (word : next.word = tunnel.word) :
    Voice surroundings.sink (relay.perform surroundings move) index next := by
  cases h with
  | intact unbroken sound =>
      exact .intact (unbroken.perform silent) fun reason panicked =>
        word ▸ sound reason (phase ▸ panicked)
  | broken reason line panicked last broke =>
      refine .broken reason line (phase.trans panicked) ?_
        (broke.mono (lines_perform relay surroundings move))
      rwa [said_perform silent]

theorem Voice.utter (h : Voice sink before index tunnel) (stage : Stage tunnel)
    (going : tunnel.isOver = false) (uttered : Uttered sink before after index tunnel next) :
    Voice sink after index next := by
  cases h with
  | broken reason line panicked last broke =>
      rw [Tunnel.isOver, panicked] at going
      cases going
  | intact unbroken sound =>
      cases uttered with
      | silent lines kept =>
          refine .intact (unbroken.of_lines_eq lines) fun reason panicked => ?_
          rcases kept with rfl | ⟨early, hword⟩
          · exact sound reason panicked
          · rw [hword reason panicked, (stage.of_early early).2]
            exact (Option.some_ne_none _).symm
      | taken line lines taken sound =>
          exact .intact (unbroken.write lines taken) fun reason panicked =>
            absurd panicked (sound reason)
      | refused line reason lines refusal panicked =>
          refine .broken reason line panicked ?_ (.of_refusal? refusal lines)
          rw [said_of_write lines, List.getLast?_concat]

/-- A worker that has ended does nothing any more. -/
theorem perform_of_isOver (found : relay.tunnels[index]? = some tunnel)
    (ceased : tunnel.isOver = true) (speaks : move.speaker? = some (.worker index)) :
    relay.perform surroundings move = relay := by
  rcases phase_of_isOver ceased with ⟨how, phase⟩
  cases move with
  | act action =>
      cases action with
      | worker place =>
          cases speaks
          simp only [perform, step, runWorker, found, phase]
      | _ => cases speaks
  | failAccept place reason =>
      cases speaks
      simp only [perform, failAccept, found, phase, reduceCtorEq, if_false]
  | _ => cases speaks

theorem voice_run (surroundings : Surroundings σ) (reachable : Bool) (remote : σ)
    (moves : List Move)
    (found : ((idle reachable remote).run surroundings moves).tunnels[index]? = some tunnel) :
    Voice surroundings.sink ((idle reachable remote).run surroundings moves) index tunnel := by
  refine run_induction (P := fun _ relay => ∀ tunnel, relay.tunnels[index]? = some tunnel →
    Voice surroundings.sink relay index tunnel) (.idle reachable remote) ?_ ?_ moves tunnel found
  · intro tunnel hnone
    cases hnone
  intro moves move before wellformed hrun ih tunnel found
  rcases perform_tunnel_cases wellformed found with
    ⟨options, endpoint, remotePort, grant, now, hnone, rfl⟩ | ⟨old, hold, hcases⟩
  · -- Nobody has spoken who was not there.
    have habsent : IsAbsent before (.worker index) := hnone
    have hsilent : move.speaker? ≠ some (.worker index) := by
      intro speaks
      rw [perform_of_isAbsent habsent speaks, hnone] at found
      cases found
    have hsaid : before.said (.worker index) = [] := by
      subst hrun
      exact said_run_of_isAbsent surroundings reachable remote moves habsent
    exact .intact (.of_said_nil ((said_perform hsilent).trans hsaid)) nofun
  · by_cases speaks : move.speaker? = some (.worker index)
    · cases ceased : old.isOver with
      | true =>
          have hsame : before.perform surroundings move = before :=
            perform_of_isOver hold ceased speaks
          rw [hsame] at found ⊢
          exact ih tunnel found
      | false =>
          rcases perform_utters surroundings hold speaks with ⟨later, hlater, huttered⟩
          cases found.symm.trans hlater
          have hstage : Stage old := by
            subst hrun
            exact (staged_run surroundings reachable remote moves old
              (List.mem_of_getElem? hold)).1
          exact (ih old hold).utter hstage ceased huttered
    · rcases hcases with rfl | hstep
      · exact (ih tunnel hold).keep speaks rfl rfl
      · rcases hstep.of_silent speaks with ⟨hphase, hword⟩
        exact (ih old hold).keep speaks hphase hword

end Relay

end Readiness
