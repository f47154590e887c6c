import Readiness.Proofs.Tunnel.Runs

/-!
# Stages — what workers have shown and told

* `Relay.Stage` ties how far a worker is to the states that it has shown and to what it has told its
  caller, and `Relay.Told` ties what the caller knows and has done to what it was told;
* `Relay.staged_run`: in every run every tunnel is in a stage;
* `Relay.forwards_run`: only tunnels that showed that they are ready accept connections and dial for
  them, and `Relay.probesOnce_run`: a worker itself dials once at most.
-/

namespace Readiness

namespace Relay

variable {σ : Type} {surroundings : Surroundings σ} {move : Move} {before after : Relay σ}
  {index : Nat} {tunnel next : Tunnel}

/-! ## Stages -/

/-- What a worker that has ended has shown and told. -/
inductive Outcome (tunnel : Tunnel) : WorkerEnd → Prop
  | withdrawn (history : tunnel.history = [.closed, .starting]) (word : tunnel.word = none)
      (stopped : tunnel.stopped = true) : Outcome tunnel .finished
  | unwanted (history : tunnel.history = [.closed, .ready, .starting]) (word : tunnel.word = none)
      (unwanted : ¬ isWanted tunnel) : Outcome tunnel .finished
  | failed (reason : String) (history : tunnel.history = [.failed reason, .starting])
      (word : tunnel.word = some (.error (tunnel.error reason))) : Outcome tunnel .finished
  | panicked (reason : String) (history : tunnel.history = [.starting])
      (word : tunnel.word = none) : Outcome tunnel (.panicked reason)
  | stopped (history : tunnel.history = [.closed, .ready, .starting])
      (word : tunnel.word = some (.ok ())) (stopped : tunnel.stopped = true) :
      Outcome tunnel .finished
  | silenced (reason : String) (history : tunnel.history = [.ready, .starting])
      (word : tunnel.word = some (.ok ())) : Outcome tunnel (.panicked reason)
  | cutOff (error : Error) (history : tunnel.history = [.failed error.message, .ready, .starting])
      (word : tunnel.word = some (.ok ())) : Outcome tunnel (.failed error)

/-- Whether a worker has not decided yet how its tunnel opens, or has told nobody. -/
def isEarly : Phase → Bool
  | .spawned | .probing .. | .decided _ => true
  | .forwarding | .ended _ => false

/-- What a worker has shown and told. -/
inductive Stage (tunnel : Tunnel) : Prop
  | early (phase : isEarly tunnel.phase = true) (history : tunnel.history = [.starting])
      (word : tunnel.word = none)
  | forwarding (phase : tunnel.phase = .forwarding) (history : tunnel.history = [.ready, .starting])
      (word : tunnel.word = some (.ok ()))
  | ceased (how : WorkerEnd) (phase : tunnel.phase = .ended how) (outcome : Outcome tunnel how)

/-- What the caller of a tunnel knows and has done. -/
structure Told (tunnel : Tunnel) : Prop where
  wanted : isWanted tunnel → tunnel.stopped = false
  opening : tunnel.owner = .opening → tunnel.opened = none
  holding : tunnel.owner = .holding → tunnel.word = some (.ok ())
  opened : ∀ instant, tunnel.opened = some (instant, .ok ()) → tunnel.word = some (.ok ())
  givenUp : ¬ isWanted tunnel → tunnel.stopped = true ∨ tunnel.isOver = true

theorem Outcome.keep {how : WorkerEnd} (h : Outcome tunnel how)
    (history : next.history = tunnel.history) (word : next.word = tunnel.word)
    (error : next.error = tunnel.error) (stopped : tunnel.stopped = true → next.stopped = true)
    (wanted : isWanted next → isWanted tunnel) : Outcome next how := by
  cases h with
  | withdrawn shown told halted =>
      exact .withdrawn (history.trans shown) (word.trans told) (stopped halted)
  | unwanted shown told unwanted =>
      exact .unwanted (history.trans shown) (word.trans told) fun h => unwanted (wanted h)
  | failed reason shown told =>
      exact .failed reason (history.trans shown) (by rw [word, told, error])
  | panicked reason shown told => exact .panicked reason (history.trans shown) (word.trans told)
  | stopped shown told halted =>
      exact .stopped (history.trans shown) (word.trans told) (stopped halted)
  | silenced reason shown told => exact .silenced reason (history.trans shown) (word.trans told)
  | cutOff error shown told => exact .cutOff error (history.trans shown) (word.trans told)

namespace Stage

theorem fresh (endpoint : Endpoint) (remotePort : Nat) (options : TunnelOptions) (grant : Grant)
    (now : Nat) : Stage (.fresh endpoint remotePort options grant now) :=
  .early rfl rfl rfl

/-- The steps of a caller keep the stage. -/
theorem keep (h : Stage tunnel) (phase : next.phase = tunnel.phase)
    (history : next.history = tunnel.history) (word : next.word = tunnel.word)
    (error : next.error = tunnel.error) (stopped : tunnel.stopped = true → next.stopped = true)
    (wanted : isWanted next → isWanted tunnel) : Stage next := by
  cases h with
  | early early shown told =>
      exact .early (phase ▸ early) (history.trans shown) (word.trans told)
  | forwarding forwarding shown told =>
      exact .forwarding (phase.trans forwarding) (history.trans shown) (word.trans told)
  | ceased how ceased outcome =>
      exact .ceased how (phase.trans ceased) (outcome.keep history word error stopped wanted)

/-- An early worker has shown nothing but its start and told nothing. -/
theorem of_early (h : Stage tunnel) (early : isEarly tunnel.phase = true) :
    tunnel.history = [.starting] ∧ tunnel.word = none := by
  cases h with
  | early _ history word => exact ⟨history, word⟩
  | forwarding phase => simp [phase, isEarly] at early
  | ceased how phase => simp [phase, isEarly] at early

theorem of_forwarding (h : Stage tunnel) (forwarding : tunnel.phase = .forwarding) :
    tunnel.history = [.ready, .starting] ∧ tunnel.word = some (.ok ()) := by
  cases h with
  | early phase => simp [forwarding, isEarly] at phase
  | forwarding _ history word => exact ⟨history, word⟩
  | ceased how phase => simp [forwarding] at phase

end Stage

theorem Turn.stage {now : Nat} (turn : Turn now index tunnel move next) (h : Stage tunnel) :
    Stage next := by
  cases turn with
  | decided phase due =>
      rcases h.of_early (by rw [phase]; rfl) with ⟨history, word⟩
      exact .early rfl history word
  | ready phase owner =>
      rcases h.of_early (by rw [phase]; rfl) with ⟨history, word⟩
      exact .forwarding rfl (by rw [history]) rfl
  | collected owner known => exact h.keep rfl rfl rfl rfl id fun _ => .inl owner
  | abandoned owner => exact h.keep rfl rfl rfl rfl (fun _ => rfl) fun _ => .inl owner
  | closing owner => exact h.keep rfl rfl rfl rfl (fun _ => rfl) fun _ => .inr owner
  | dropped owner => exact h.keep rfl rfl rfl rfl (fun _ => rfl) fun _ => .inr owner
  | discarded owner => exact h.keep rfl rfl rfl rfl id (by simp [isWanted])
  | joined owner phase => exact h.keep rfl rfl rfl rfl id (by simp [isWanted])
  | left owner => exact h.keep rfl rfl rfl rfl id (by simp [isWanted])

/-- A caller who does not wait any more for a worker that has just decided wants nothing from it: one
who holds the handle would have been told. -/
theorem Told.unwanted (told : Told tunnel) (stage : Stage tunnel) {verdict : ProbeEnd}
    (phase : tunnel.phase = .decided verdict) (owner : tunnel.owner ≠ .opening) :
    ¬ isWanted tunnel := by
  rintro (opening | holding)
  · exact owner opening
  · have hword := told.holding holding
    rw [(stage.of_early (by rw [phase]; rfl)).2] at hword
    cases hword

theorem Ending.stage {states : List TunnelState} {word : Option (Except Error Unit)}
    {how : WorkerEnd} (ending : Ending index tunnel move states word how) (h : Stage tunnel)
    (told : Told tunnel) : Stage (ended tunnel states word how) := by
  refine .ceased how rfl ?_
  cases ending with
  | greeting phase reason =>
      rcases h.of_early (by rw [phase]; rfl) with ⟨history, word⟩
      exact .panicked reason history word
  | early phase stopped =>
      rcases h.of_early (by rw [phase]; rfl) with ⟨history, word⟩
      exact .withdrawn (by simp [ended, history]) word stopped
  | withdrawn phase stopped =>
      rcases h.of_early (by rw [phase]; rfl) with ⟨history, word⟩
      exact .withdrawn (by simp [ended, history]) word stopped
  | unwanted phase owner =>
      rcases h.of_early (by rw [phase]; rfl) with ⟨history, word⟩
      exact .unwanted (by simp [ended, history]) word (told.unwanted h phase owner)
  | failed phase =>
      rcases h.of_early (by rw [phase]; rfl) with ⟨history, word⟩
      exact .failed _ (by simp [ended, history]) rfl
  | silenced phase panic =>
      rcases h.of_early (by rw [phase]; rfl) with ⟨history, word⟩
      exact .panicked panic history word
  | panicked phase =>
      rcases h.of_early (by rw [phase]; rfl) with ⟨history, word⟩
      exact .panicked _ history word
  | stopped phase stopped =>
      rcases h.of_forwarding phase with ⟨history, word⟩
      exact .stopped (by simp [ended, history]) word stopped
  | stoppedSilently phase stopped reason =>
      rcases h.of_forwarding phase with ⟨history, word⟩
      exact .silenced reason history word
  | cutOff phase reason =>
      rcases h.of_forwarding phase with ⟨history, word⟩
      exact .cutOff _ (by simp [ended, history]) word
  | cutOffSilently phase reason panic =>
      rcases h.of_forwarding phase with ⟨history, word⟩
      exact .silenced panic history word

/-- What the worker tells stands. -/
theorem Step.word_ok (step : Step surroundings before after index tunnel move next)
    (h : Stage tunnel) (word : tunnel.word = some (.ok ())) : next.word = some (.ok ()) := by
  have hlate (early : isEarly tunnel.phase = true) : False := by
    have hword := (h.of_early early).2
    rw [word] at hword
    cases hword
  cases step with
  | probed phase own offset verdict events outcome dials => exact word
  | turned turn => cases turn <;> first | exact word | rfl
  | ended ending =>
      cases ending with
      | failed phase => exact (hlate (by rw [phase]; rfl)).elim
      | _ => exact word

/-! ## Callers -/

theorem word_of_openingResult? (known : openingResult? tunnel = some (.ok ())) :
    tunnel.word = some (.ok ()) := by
  unfold openingResult? at known
  split at known
  · assumption
  · cases known
  · cases known
  · cases known

theorem isOver_of_openingResult? {error : Error}
    (known : openingResult? tunnel = some (.error error)) : tunnel.isOver = true := by
  unfold openingResult? at known
  unfold Tunnel.isOver
  split at known
  · cases known
  · simp_all
  · simp_all
  · cases known

namespace Told

theorem fresh (endpoint : Endpoint) (remotePort : Nat) (options : TunnelOptions) (grant : Grant)
    (now : Nat) : Told (.fresh endpoint remotePort options grant now) where
  wanted := fun _ => rfl
  opening := fun _ => rfl
  holding := by simp [Tunnel.fresh]
  opened := by simp [Tunnel.fresh]
  givenUp := fun h => absurd (.inl rfl) h

/-- The steps of a worker leave what the caller knows. -/
theorem keep (h : Told tunnel) (owner : next.owner = tunnel.owner)
    (stopped : next.stopped = tunnel.stopped) (opened : next.opened = tunnel.opened)
    (word : tunnel.word = some (.ok ()) → next.word = some (.ok ()))
    (ceased : tunnel.isOver = true → next.isOver = true) : Told next where
  wanted := fun wanted => stopped.trans (h.wanted (by rwa [isWanted, owner] at wanted))
  opening := fun opening => opened.trans (h.opening (owner ▸ opening))
  holding := fun holding => word (h.holding (owner ▸ holding))
  opened := fun instant known => word (h.opened instant (opened ▸ known))
  givenUp := by
    intro unwanted
    rw [isWanted, owner] at unwanted
    exact (h.givenUp unwanted).imp stopped.trans ceased

/-- A caller who gives a tunnel up or has done so knows what it knew. -/
theorem give (h : Told tunnel) (unwanted : ¬ isWanted next) (opened : next.opened = tunnel.opened)
    (word : next.word = tunnel.word) (givenUp : next.stopped = true ∨ next.isOver = true) :
    Told next where
  wanted := fun wanted => absurd wanted unwanted
  opening := fun opening => absurd (.inl opening) unwanted
  holding := fun holding => absurd (.inr holding) unwanted
  opened := fun instant known => word.trans (h.opened instant (opened ▸ known))
  givenUp := fun _ => givenUp

end Told

theorem Turn.told {now : Nat} (turn : Turn now index tunnel move next) (h : Told tunnel) :
    Told next := by
  cases turn with
  | decided phase due =>
      exact h.keep rfl rfl rfl id fun ceased => by simp [isOver_of_phase phase] at ceased
  | ready phase owner =>
      exact h.keep rfl rfl rfl (fun _ => rfl) fun ceased => by simp [isOver_of_phase phase] at ceased
  | @collected result owner known =>
      cases result with
      | ok _ =>
          have hword := word_of_openingResult? known
          constructor
          · exact fun _ => h.wanted (.inl owner)
          · intro opening
            cases opening
          · exact fun _ => hword
          · exact fun _ _ => hword
          · exact fun unwanted => absurd (.inr rfl) unwanted
      | error error =>
          constructor
          · rintro (opening | holding)
            · cases opening
            · cases holding
          · intro opening
            cases opening
          · intro holding
            cases holding
          · intro instant opened
            cases opened
          · exact fun _ => .inr (isOver_of_openingResult? known)
  | abandoned owner => exact h.give (by simp [isWanted]) rfl rfl (.inl rfl)
  | closing owner => exact h.give (by simp [isWanted]) rfl rfl (.inl rfl)
  | dropped owner => exact h.give (by simp [isWanted]) rfl rfl (.inl rfl)
  | discarded owner =>
      exact h.give (by simp [isWanted]) rfl rfl (h.givenUp (by simp [isWanted, owner]))
  | joined owner phase =>
      exact h.give (by simp [isWanted]) rfl rfl (h.givenUp (by simp [isWanted, owner]))
  | left owner =>
      exact h.give (by simp [isWanted]) rfl rfl (h.givenUp (by simp [isWanted, owner]))

theorem Step.told (step : Step surroundings before after index tunnel move next)
    (stage : Stage tunnel) (h : Told tunnel) : Told next := by
  have hword := step.word_ok stage
  have hover := fun ceased => (step.grows.ceased ceased).1
  cases step with
  | probed phase own offset verdict events outcome dials => exact h.keep rfl rfl rfl hword hover
  | turned turn => exact turn.told h
  | ended ending => exact h.keep rfl rfl rfl hword hover

theorem Step.stage (step : Step surroundings before after index tunnel move next)
    (h : Stage tunnel) (told : Told tunnel) : Stage next := by
  cases step with
  | probed phase own offset verdict events outcome dials =>
      rcases h.of_early (by rw [phase]; rfl) with ⟨history, word⟩
      exact .early rfl history word
  | turned turn => exact turn.stage h
  | ended ending => exact ending.stage h told

/-- Every tunnel is in a stage, and its caller knows what it was told. -/
def Staged (relay : Relay σ) : Prop := ∀ tunnel ∈ relay.tunnels, Stage tunnel ∧ Told tunnel

theorem Change.staged (change : Change surroundings move before after) (h : Staged before) :
    Staged after :=
  change.forall_tunnels (P := fun tunnel => Stage tunnel ∧ Told tunnel)
    (fun _ _ _ _ _ => ⟨.fresh _ _ _ _ _, .fresh _ _ _ _ _⟩)
    (fun _ _ _ h step => ⟨step.stage h.1 h.2, step.told h.1 h.2⟩) h

theorem staged_run (surroundings : Surroundings σ) (reachable : Bool) (remote : σ)
    (moves : List Move) : Staged ((idle reachable remote).run surroundings moves) :=
  (run_invariant (.idle reachable remote) (fun _ _ _ _ _ change h => change.staged h)
    (by simp [Staged, idle])).2

/-! ## Traffic -/

/-- A tunnel has shown that it is ready. -/
def ShowedReady (relay : Relay σ) (index : Nat) : Prop :=
  ∃ tunnel, relay.tunnels[index]? = some tunnel ∧ .ready ∈ tunnel.history

theorem Extends.showedReady (h : Extends before after) (ready : ShowedReady before index) :
    ShowedReady after index := by
  rcases ready with ⟨tunnel, found, hready⟩
  rcases h.tunnels index tunnel found with ⟨later, hlater, hgrows⟩
  exact ⟨later, hlater, hgrows.history.subset hready⟩

/-- Only tunnels that showed that they are ready have accepted connections and dialed for them. -/
structure Forwards (relay : Relay σ) : Prop where
  accepted : ∀ connection ∈ relay.connections, connection.phase = .waiting ∨
    connection.phase = .ended ∨ ShowedReady relay connection.tunnel
  dialed : ∀ dial ∈ relay.dials, ∀ (place : Nat), dial.2.1 = .connection place →
    ∃ connection, relay.connections[place]? = some connection ∧
      ShowedReady relay connection.tunnel

theorem ConnectionStep.forwards {now : Nat} {connection later : Connection}
    (step : ConnectionStep now connection tunnel move later) (stage : Stage tunnel)
    (found : before.tunnels[connection.tunnel]? = some tunnel)
    (h : connection.phase = .waiting ∨ connection.phase = .ended ∨
      ShowedReady before connection.tunnel) :
    later.phase = .waiting ∨ later.phase = .ended ∨ ShowedReady before later.tunnel := by
  have going {phase : ConnectionPhase} (hphase : connection.phase = phase)
      (waiting : phase ≠ .waiting) (ended : phase ≠ .ended) :
      ShowedReady before connection.tunnel := by
    subst hphase
    exact (h.resolve_left waiting).resolve_left ended
  cases step with
  | dialed phase dialing => exact .inr (.inr (going phase (by simp) (by simp)))
  | advanced turn =>
      cases turn with
      | accepted waiting forwarding =>
          refine .inr (.inr ⟨tunnel, found, ?_⟩)
          rw [(stage.of_forwarding forwarding).1]
          exact List.mem_cons_self
      | opened dialing due => exact .inr (.inr (going dialing (by simp) (by simp)))
      | copied copying due copy => exact .inr (.inr (going copying (by simp) (by simp)))
      | closed client going refused => exact .inr (.inl rfl)
      | used client byClient heard => exact h

theorem Change.forwards (change : Change surroundings move before after) (staged : Staged before)
    (h : Forwards before) : Forwards after where
  accepted := by
    have hextends := change.extends
    intro connection hmem
    have lift (hbefore : connection.phase = .waiting ∨ connection.phase = .ended ∨
        ShowedReady before connection.tunnel) := hbefore.imp_right (Or.imp_right hextends.showedReady)
    rcases change.mem_connections hmem with
      hold | ⟨place, owner, -, -, -, rfl⟩ | ⟨old, hold, owner, howner, -, hstep⟩
    · exact lift (h.accepted connection hold)
    · exact .inl rfl
    · have hstage := (staged owner (List.mem_of_getElem? howner)).1
      exact lift (hstep.forwards hstage howner (h.accepted old hold))
  dialed := by
    have hextends := change.extends
    have lift {place : Nat} (hbefore : ∃ connection, before.connections[place]? = some connection ∧
        ShowedReady before connection.tunnel) : ∃ connection,
          after.connections[place]? = some connection ∧ ShowedReady after connection.tunnel := by
      rcases hbefore with ⟨connection, found, hready⟩
      rcases hextends.connections place connection found with ⟨later, hlater, hendures⟩
      exact ⟨later, hlater, hendures.tunnel ▸ hextends.showedReady hready⟩
    intro dial hmem place hactor
    rcases change.dials_cases with
      hsame | ⟨index, owner, _, _, _, hdialed⟩ |
        ⟨index, connection, owner, found, _, hphase, hdialed⟩
    · exact lift (h.dialed dial (hsame ▸ hmem) place hactor)
    · rw [hdialed] at hmem
      rcases List.mem_append.1 hmem with hold | hnew
      · exact lift (h.dialed dial hold place hactor)
      · rw [List.mem_singleton.1 hnew] at hactor
        cases hactor
    · rw [hdialed] at hmem
      rcases List.mem_append.1 hmem with hold | hnew
      · exact lift (h.dialed dial hold place hactor)
      · -- A connection that dials was accepted.
        rw [List.mem_singleton.1 hnew] at hactor
        cases hactor
        have haccepted := h.accepted connection (List.mem_of_getElem? found)
        rw [hphase] at haccepted
        exact lift ⟨connection, found, by simpa using haccepted⟩

theorem forwards_run (surroundings : Surroundings σ) (reachable : Bool) (remote : σ)
    (moves : List Move) : Forwards ((idle reachable remote).run surroundings moves) := by
  refine (run_invariant (P := fun relay => Staged relay ∧ Forwards relay) (.idle reachable remote)
    (fun _ _ _ _ _ change h => ⟨change.staged h.1, change.forwards h.1 h.2⟩) ?_).2.2
  exact ⟨by simp [Staged, idle], ⟨by simp [idle], by simp [idle]⟩⟩

/-- The attempts of a worker to open a stream. -/
def probes (relay : Relay σ) (index : Nat) : List (Nat × Actor × Endpoint × Nat) :=
  relay.dials.filter fun dial => dial.2.1 = .worker index

/-- A worker dials once at most, and not before it runs. -/
def ProbesOnce (relay : Relay σ) : Prop :=
  ∀ index, (relay.probes index).length ≤ 1 ∧
    ((∀ tunnel, relay.tunnels[index]? = some tunnel → tunnel.phase = .spawned) →
      relay.probes index = [])

theorem Change.probesOnce (change : Change surroundings move before after) (h : ProbesOnce before) :
    ProbesOnce after := by
  intro index
  have hearlier (spawned : ∀ tunnel : Tunnel, after.tunnels[index]? = some tunnel →
      tunnel.phase = .spawned) :
      ∀ tunnel : Tunnel, before.tunnels[index]? = some tunnel → tunnel.phase = .spawned := by
    intro tunnel found
    rcases change.extends.tunnels index tunnel found with ⟨later, hlater, hgrows⟩
    exact hgrows.begun (spawned later hlater)
  have lift (hsame : after.probes index = before.probes index) :
      (after.probes index).length ≤ 1 ∧
        ((∀ tunnel, after.tunnels[index]? = some tunnel → tunnel.phase = .spawned) →
          after.probes index = []) := by
    rw [hsame]
    exact ⟨(h index).1, fun spawned => (h index).2 (hearlier spawned)⟩
  rcases change.dials_cases with
    hsame | ⟨place, tunnel, found, hspawned, hlater, hdialed⟩ | ⟨place, _, _, _, _, _, hdialed⟩
  · exact lift (by rw [probes, hsame]; rfl)
  · by_cases heq : place = index
    · -- The worker has not dialed before, and it has begun now.
      subst heq
      have hnone : before.probes place = [] := (h place).2 fun other hother => by
        rw [found] at hother
        cases hother
        exact hspawned
      have hone : after.probes place =
          [(before.now, .worker place, tunnel.endpoint, tunnel.remotePort)] := by
        rw [probes, hdialed, List.filter_append]
        rw [probes] at hnone
        rw [hnone]
        simp
      rw [hone]
      refine ⟨Nat.le_refl _, fun spawned => ?_⟩
      rcases hlater with ⟨later, hfound, hbegun⟩
      exact absurd (spawned later hfound) hbegun
    · refine lift ?_
      rw [probes, hdialed, List.filter_append]
      simp [probes, heq]
  · refine lift ?_
    rw [probes, hdialed, List.filter_append]
    simp [probes]

theorem probesOnce_run (surroundings : Surroundings σ) (reachable : Bool) (remote : σ)
    (moves : List Move) : ProbesOnce ((idle reachable remote).run surroundings moves) :=
  (run_invariant (.idle reachable remote) (fun _ _ _ _ _ change h => change.probesOnce h)
    (by simp [ProbesOnce, probes, idle])).2

end Relay

end Readiness
