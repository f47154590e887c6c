import Readiness.Proofs.Tunnel.Spontaneous
import Readiness.Proofs.Tunnel.Stopping
import Readiness.Proofs.Tunnel.Verdict

/-!
# Opening — from the bind of a port to the answer of the worker

While a caller waits for a tunnel to open, its worker says where it forwards, dials once, and answers
when its probe has come to a verdict.

* `Relay.Asked` is what may become of that dial, and `Relay.Decides` the verdict on it;
* `Relay.Answered` has one rule for each way in which a worker answers, and `Relay.Underway` lists how
  far opening can be;
* `Relay.Underway.perform` is the step lemma, for every task of the relay, and
  `Relay.Underway.settle` the run lemma;
* `Relay.waitUntil_learned`: the caller learns the answer at the instant of the verdict.
-/

namespace Readiness

namespace Relay

variable {σ : Type} {surroundings : Surroundings σ} {started relay before after : Relay σ}
  {move : Move} {index offset : Nat} {base tunnel : Tunnel} {verdict : ProbeEnd}
  {result : Except Error Unit}

/-! ## The dial and its verdict -/

/-- The worker has not run, and the caller waits for it. -/
structure Awaited (tunnel : Tunnel) : Prop where
  phase : tunnel.phase = .spawned
  owner : tunnel.owner = .opening
  stopped : tunnel.stopped = false
  word : tunnel.word = none
  opened : tunnel.opened = none

theorem Awaited.fresh (endpoint : Endpoint) (remotePort : Nat) (options : TunnelOptions)
    (grant : Grant) (now : Nat) : Awaited (.fresh endpoint remotePort options grant now) :=
  ⟨rfl, rfl, rfl, rfl, rfl⟩

/-- No task but those of one worker can change anything. -/
def Alone (surroundings : Surroundings σ) (relay : Relay σ) (index : Nat) : Prop :=
  ∀ move, Move.isTask move = true → move ≠ .act (.worker index) →
    relay.perform surroundings move = relay

/-- The relay in which a worker makes its first step. Tasks of others may go before it. -/
structure Led (surroundings : Surroundings σ) (started : Relay σ) (index : Nat) (relay : Relay σ) :
    Prop where
  tasks : ∃ tasks, (∀ task ∈ tasks, Move.isTask task = true) ∧
    relay = started.run surroundings tasks
  alone : Alone surroundings started index → relay = started

/-- What becomes of the dial of a worker. -/
def Asked (surroundings : Surroundings σ) (started : Relay σ) (index : Nat) (base : Tunnel)
    (dialing : Dialing) : Prop :=
  ∃ relay, Led surroundings started index relay ∧
    (surroundings.transport.dial relay.now base.endpoint base.remotePort relay.remote).1 = dialing

/-- The verdict on that dial, and its offset from the start. -/
def Decides (surroundings : Surroundings σ) (started : Relay σ) (index : Nat) (base : Tunnel)
    (offset : Nat) (verdict : ProbeEnd) : Prop :=
  ∃ dialing, Asked surroundings started index base dialing ∧
    Probe.verdict base.options.probeSettle base.options.readyTimeout dialing = (offset, verdict)

/-- How the worker answers: the offset, its record, and what its caller is going to learn. -/
inductive Answered (surroundings : Surroundings σ) (started : Relay σ) (index : Nat) (base : Tunnel)
    (relay : Relay σ) : Nat → Tunnel → Except Error Unit → Prop
  /-- The sink breaks down on the first line. -/
  | silenced (panic : String)
      (broke : BrokeOn surroundings.sink relay (.worker index) base.forwardingLine) :
      Answered surroundings started index base relay 0 (ended base [] base.word (.panicked panic))
        (.error (base.error (silentEnd (.panicked panic))))
  | ready {offset : Nat} (decides : Decides surroundings started index base offset .ready)
      (said : relay.said (.worker index) = [base.forwardingLine]) :
      Answered surroundings started index base relay offset
        { base with history := .ready :: base.history, word := some (.ok ()), phase := .forwarding }
        (.ok ())
  | failed {offset : Nat} {reason : String}
      (decides : Decides surroundings started index base offset (.failed reason))
      (said : relay.said (.worker index) = [base.forwardingLine, Tunnel.errorLine reason]) :
      Answered surroundings started index base relay offset
        (ended base [.failed reason] (some (.error (base.error reason))) .finished)
        (.error (base.error reason))
  /-- The sink breaks down on the reason. -/
  | choked {offset : Nat} {reason : String} (panic : String)
      (decides : Decides surroundings started index base offset (.failed reason))
      (broke : BrokeOn surroundings.sink relay (.worker index) (Tunnel.errorLine reason)) :
      Answered surroundings started index base relay offset
        (ended base [] base.word (.panicked panic))
        (.error (base.error (silentEnd (.panicked panic))))
  /-- The transport breaks down. -/
  | panicked {offset : Nat} {reason : String}
      (decides : Decides surroundings started index base offset (.panicked reason))
      (said : relay.said (.worker index) = [base.forwardingLine]) :
      Answered surroundings started index base relay offset
        (ended base [] base.word (.panicked reason))
        (.error (base.error (silentEnd (.panicked reason))))

/-- The record after the caller learned the result. -/
def afterLearning (tunnel : Tunnel) (now : Nat) (result : Except Error Unit) : Tunnel :=
  { tunnel with owner := ownerAfter result, opened := some (now, result) }

/-- What the caller finds when its wait is over. -/
structure Learned (surroundings : Surroundings σ) (started : Relay σ) (index : Nat) (base : Tunnel)
    (relay : Relay σ) (offset : Nat) (tunnel : Tunnel) (result : Except Error Unit) : Prop where
  answered : Answered surroundings started index base relay offset tunnel result
  now : relay.now = base.startedAt + offset
  found : relay.tunnels[index]? = some (afterLearning tunnel relay.now result)

/-- How far the opening of a tunnel is. -/
inductive Underway (surroundings : Surroundings σ) (started : Relay σ) (index : Nat) (base : Tunnel)
    (relay : Relay σ) : Prop
  | begun (led : Led surroundings started index relay) (now : relay.now = base.startedAt)
      (found : relay.tunnels[index]? = some base) (said : relay.said (.worker index) = [])
  | probing {offset : Nat} {verdict : ProbeEnd} {events : List Event}
      (decides : Decides surroundings started index base offset verdict)
      (now : relay.now ≤ base.startedAt + offset)
      (found : relay.tunnels[index]? =
        some { base with phase := .probing (base.startedAt + offset) verdict events })
      (said : relay.said (.worker index) = [base.forwardingLine])
  | decided {offset : Nat} {verdict : ProbeEnd}
      (decides : Decides surroundings started index base offset verdict)
      (now : relay.now = base.startedAt + offset)
      (found : relay.tunnels[index]? = some { base with phase := .decided verdict })
      (said : relay.said (.worker index) = [base.forwardingLine])
  | answered {offset : Nat} {tunnel : Tunnel} {result : Except Error Unit}
      (answered : Answered surroundings started index base relay offset tunnel result)
      (now : relay.now = base.startedAt + offset) (found : relay.tunnels[index]? = some tunnel)
  | learned {offset : Nat} {tunnel : Tunnel} {result : Except Error Unit}
      (learned : Learned surroundings started index base relay offset tunnel result)

/-! ## Answers -/

namespace Answered

theorem offset_le (h : Answered surroundings started index base relay offset tunnel result) :
    offset ≤ base.options.readyTimeout.timerMillis := by
  have bounded {verdict : ProbeEnd}
      (decides : Decides surroundings started index base offset verdict) :
      offset ≤ base.options.readyTimeout.timerMillis := by
    rcases decides with ⟨dialing, -, hverdict⟩
    have hle := Probe.verdict_le base.options.probeSettle base.options.readyTimeout dialing
    rwa [hverdict] at hle
  cases h with
  | silenced panic broke => exact Nat.zero_le _
  | ready decides said => exact bounded decides
  | failed decides said => exact bounded decides
  | choked panic decides broke => exact bounded decides
  | panicked decides said => exact bounded decides

/-- Nothing that happens later takes an answer back. -/
theorem keep (h : Answered surroundings started index base relay offset tunnel result)
    (said : after.said (.worker index) = relay.said (.worker index))
    (lines : relay.lines <+: after.lines) :
    Answered surroundings started index base after offset tunnel result := by
  cases h with
  | silenced panic broke => exact .silenced panic (broke.mono lines)
  | ready decides told => exact .ready decides (said.trans told)
  | failed decides told => exact .failed decides (said.trans told)
  | choked panic decides broke => exact .choked panic decides (broke.mono lines)
  | panicked decides told => exact .panicked decides (said.trans told)

theorem owner (h : Answered surroundings started index base relay offset tunnel result) :
    tunnel.owner = base.owner := by
  cases h <;> rfl

theorem opened (h : Answered surroundings started index base relay offset tunnel result) :
    tunnel.opened = base.opened := by
  cases h <;> rfl

theorem grant (h : Answered surroundings started index base relay offset tunnel result) :
    tunnel.grant = base.grant := by
  cases h <;> rfl

/-- The worker has nothing more to do. -/
theorem rests (h : Answered surroundings started index base relay offset tunnel result)
    (awaited : Awaited base) (now : Nat) : workerIsDue now tunnel = false := by
  cases h with
  | ready decides said => exact awaited.stopped
  | silenced panic broke => rfl
  | failed decides said => rfl
  | choked panic decides broke => rfl
  | panicked decides said => rfl

/-- The caller can learn the result. -/
theorem known (h : Answered surroundings started index base relay offset tunnel result)
    (awaited : Awaited base) : openingResult? tunnel = some result := by
  have panicked (panic : String) : openingResult? (ended base [] base.word (.panicked panic)) =
      some (.error (base.error (silentEnd (.panicked panic)))) := by
    simp only [openingResult?, ended, awaited.word]
    rfl
  cases h with
  | silenced panic broke => exact panicked _
  | ready decides said => rfl
  | failed decides said => rfl
  | choked panic decides broke => exact panicked _
  | panicked decides said => exact panicked _

/-- A worker whose caller learns an error has ended. -/
theorem isOver {error : Error}
    (h : Answered surroundings started index base relay offset tunnel (.error error)) :
    tunnel.isOver = true := by
  cases h <;> rfl

end Answered

theorem ownerAfter_ne_closing (result : Except Error Unit) : ownerAfter result ≠ .closing := by
  cases result <;> simp [ownerAfter]

theorem callerIsDue_afterLearning (tunnel : Tunnel) (now : Nat) (result : Except Error Unit) :
    callerIsDue (afterLearning tunnel now result) = false := by
  cases result <;> rfl

/-! ## The steps of the worker -/

section Worker

theorem startProbe_eq (surroundings : Surroundings σ) (relay : Relay σ) (index : Nat)
    (tunnel : Tunnel) {dialed : Dialing × Relay σ} {offset : Nat} {verdict : ProbeEnd}
    (dialing : relay.dial surroundings.transport (.worker index) tunnel.endpoint tunnel.remotePort =
      dialed)
    (outcome : Probe.verdict tunnel.options.probeSettle tunnel.options.readyTimeout dialed.1 =
      (offset, verdict)) :
    relay.startProbe surroundings index tunnel = dialed.2.updateTunnel index fun tunnel =>
      { tunnel with
        phase := .probing (dialed.2.now + offset) verdict (Probe.eventsUntil offset dialed.1) } := by
  subst dialing
  simp only [startProbe, outcome]

theorem underway_startProbe (led : Led surroundings started index relay)
    (now : relay.now = base.startedAt) (found : relay.tunnels[index]? = some base)
    (said : relay.said (.worker index) = []) :
    Underway surroundings started index base
      ((relay.write (.worker index) base.forwardingLine).startProbe surroundings index base) := by
  rcases hdialed : (relay.write (.worker index) base.forwardingLine).dial surroundings.transport
    (.worker index) base.endpoint base.remotePort with ⟨dialing, dialed⟩
  rcases hverdict : Probe.verdict base.options.probeSettle base.options.readyTimeout dialing with
    ⟨offset, verdict⟩
  have hdecides : Decides surroundings started index base offset verdict :=
    ⟨dialing, ⟨relay, led, congrArg Prod.fst hdialed⟩, hverdict⟩
  have hrest : dialed.now = base.startedAt ∧ dialed.tunnels[index]? = some base ∧
      dialed.lines = (relay.write (.worker index) base.forwardingLine).lines := by
    cases hdialed
    exact ⟨now, found, rfl⟩
  rcases hrest with ⟨hnow, hfound, hlines⟩
  have hprobing := core_updateTunnel (fun tunnel => { tunnel with
    phase := .probing (base.startedAt + offset) verdict (Probe.eventsUntil offset dialing) }) hfound
  rw [startProbe_eq surroundings _ index base hdialed hverdict, hnow]
  refine .probing hdecides (Nat.le_trans (Nat.le_of_eq hnow) (Nat.le_add_right _ _))
    (tunnel_of_core hprobing (List.getElem?_eq_some_iff.1 hfound).1) ?_
  have hsaid : (dialed.said (.worker index)) = relay.said (.worker index) ++ [base.forwardingLine] :=
    said_of_write hlines
  rw [said, List.nil_append] at hsaid
  exact hsaid

theorem underway_greet (awaited : Awaited base) (led : Led surroundings started index relay)
    (now : relay.now = base.startedAt) (found : relay.tunnels[index]? = some base)
    (said : relay.said (.worker index) = []) :
    Underway surroundings started index base (relay.greet surroundings index base) := by
  cases hrefusal : relay.refusal? surroundings.sink base.forwardingLine with
  | some panic =>
      have hwritten : (relay.write (.worker index) base.forwardingLine).tunnels[index]? = some base :=
        found
      simp only [greet, hrefusal]
      refine .answered (.silenced panic (.of_refusal? hrefusal rfl)) now ?_
      exact tunnel_of_core (core_leave _ hwritten) (List.getElem?_eq_some_iff.1 found).1
  | none =>
      simp only [greet, hrefusal, awaited.stopped, Bool.false_eq_true, if_false]
      exact underway_startProbe led now found said

theorem underway_fail {reason : String}
    (decides : Decides surroundings started index base offset (.failed reason))
    (now : relay.now = base.startedAt + offset)
    (found : relay.tunnels[index]? = some { base with phase := .decided (.failed reason) })
    (said : relay.said (.worker index) = [base.forwardingLine]) :
    Underway surroundings started index base
      (relay.fail surroundings.sink index { base with phase := .decided (.failed reason) } reason) := by
  have hbound := (List.getElem?_eq_some_iff.1 found).1
  have hwritten : (relay.write (.worker index) (Tunnel.errorLine reason)).tunnels[index]? =
      some { base with phase := .decided (.failed reason) } := found
  cases hrefusal : relay.refusal? surroundings.sink (Tunnel.errorLine reason) with
  | some panic =>
      simp only [fail, hrefusal]
      refine .answered (.choked panic decides (.of_refusal? hrefusal rfl)) now ?_
      exact tunnel_of_core (core_leave _ hwritten) hbound
  | none =>
      have hleft := core_finish_leave (.failed reason) .finished hwritten rfl
      simp only [fail, hrefusal]
      refine .answered (.failed decides ?_) now ?_
      · have hsaid : (relay.write (.worker index) (Tunnel.errorLine reason)).said (.worker index) =
            relay.said (.worker index) ++ [Tunnel.errorLine reason] := said_of_write rfl
        rw [said, List.cons_append, List.nil_append] at hsaid
        exact hsaid
      · exact tunnel_of_core (core_updateTunnel_again _ hleft hbound) hbound

theorem underway_becomeReady (awaited : Awaited base)
    (decides : Decides surroundings started index base offset .ready)
    (now : relay.now = base.startedAt + offset)
    (found : relay.tunnels[index]? = some { base with phase := .decided .ready })
    (said : relay.said (.worker index) = [base.forwardingLine]) :
    Underway surroundings started index base
      (relay.becomeReady index { base with phase := .decided .ready }) := by
  have hbound := (List.getElem?_eq_some_iff.1 found).1
  have hshown := core_updateTunnel
    (fun tunnel => { tunnel with history := .ready :: tunnel.history }) found
  simp only [becomeReady, awaited.owner, if_true]
  exact .answered (.ready decides said) now
    (tunnel_of_core (core_updateTunnel_again _ hshown hbound) hbound)

theorem underway_conclude (awaited : Awaited base)
    (decides : Decides surroundings started index base offset verdict)
    (now : relay.now = base.startedAt + offset)
    (found : relay.tunnels[index]? = some { base with phase := .decided verdict })
    (said : relay.said (.worker index) = [base.forwardingLine]) :
    Underway surroundings started index base
      (relay.conclude surroundings.sink index { base with phase := .decided verdict } verdict) := by
  cases verdict with
  | ready => exact underway_becomeReady awaited decides now found said
  | failed reason => exact underway_fail decides now found said
  | panicked reason =>
      exact .answered (.panicked decides said) now
        (tunnel_of_core (core_leave _ found) (List.getElem?_eq_some_iff.1 found).1)

theorem Underway.worker (h : Underway surroundings started index base relay)
    (awaited : Awaited base) :
    Underway surroundings started index base (relay.runWorker surroundings index) := by
  cases h with
  | begun led now found said =>
      simp only [runWorker, found, awaited.phase]
      exact underway_greet awaited led now found said
  | @probing offset verdict events decides now found said =>
      simp only [runWorker, found, awaited.stopped, Bool.false_eq_true, if_false]
      by_cases early : relay.now < base.startedAt + offset
      · simp only [early, if_true]
        exact .probing decides now found said
      · have hnow : relay.now = base.startedAt + offset := by omega
        have hnoted : (relay.note events).tunnels[index]? =
            some { base with phase := .probing (base.startedAt + offset) verdict events } := found
        have hdecided := core_updateTunnel
          (fun tunnel => { tunnel with phase := .decided verdict }) hnoted
        simp only [early, if_false]
        exact .decided decides hnow
          (tunnel_of_core hdecided (List.getElem?_eq_some_iff.1 found).1) said
  | decided decides now found said =>
      simp only [runWorker, found]
      exact underway_conclude awaited decides now found said
  | answered answered now found =>
      rw [runWorker_of_not_due surroundings found (answered.rests awaited relay.now)]
      exact .answered answered now found
  | @learned offset tunnel result learned =>
      have hrests : workerIsDue relay.now (afterLearning tunnel relay.now result) = false :=
        learned.answered.rests awaited relay.now
      rw [runWorker_of_not_due surroundings learned.found hrests]
      exact .learned learned

end Worker

/-! ## The step of the caller -/

/-- A worker that has not answered leaves its caller without a result. -/
theorem openingResult?_of_early (awaited : Awaited base) {phase : Phase}
    (early : isEarly phase = true) : openingResult? { base with phase := phase } = none := by
  cases phase with
  | forwarding => cases early
  | ended how => cases early
  | _ => simp only [openingResult?, awaited.word]

theorem Underway.collect (h : Underway surroundings started index base relay)
    (awaited : Awaited base) :
    Underway surroundings started index base (relay.collect index) := by
  have still {phase : Phase} (found : relay.tunnels[index]? = some { base with phase := phase })
      (early : isEarly phase = true) : relay.collect index = relay := by
    refine collect_of_not_due found ?_
    have hnone := openingResult?_of_early awaited early
    unfold callerIsDue
    split
    · rw [hnone, Option.isSome_none]
    · rename_i closing
      rw [awaited.owner] at closing
      cases closing
    · rfl
  cases h with
  | begun led now found said =>
      have hspawned : base = { base with phase := .spawned } := by
        cases base
        cases awaited.phase
        rfl
      rw [still (hspawned ▸ found) rfl]
      exact .begun led now found said
  | probing decides now found said =>
      rw [still found rfl]
      exact .probing decides now found said
  | decided decides now found said =>
      rw [still found rfl]
      exact .decided decides now found said
  | @answered offset tunnel result answered now found =>
      have hknown := answered.known awaited
      have hnoted : (relay.note (openingEvents tunnel result)).tunnels[index]? = some tunnel := found
      have hbound := (List.getElem?_eq_some_iff.1 found).1
      have hkept : Answered surroundings started index base (relay.collect index) offset tunnel
          result := by
        refine answered.keep (said_of_lines ?_) ?_
        · have hsilent : Move.speaker? (.act (.collect index)) = none := rfl
          exact lines_step_of_silent relay surroundings hsilent
        · exact lines_perform relay surroundings (.act (.collect index))
      have hnow : (relay.collect index).now = relay.now :=
        now_step surroundings (.collect index) relay
      refine .learned ⟨hkept, hnow.trans now, ?_⟩
      rw [hnow]
      simp only [Relay.collect, found, answered.owner.trans awaited.owner, hknown]
      refine (tunnel_of_core (core_updateTunnel _ hnoted) hbound).trans ?_
      cases result <;> rfl
  | @learned offset tunnel result learned =>
      rw [collect_of_not_due learned.found (callerIsDue_afterLearning tunnel relay.now result)]
      exact .learned learned

/-! ## Steps and runs -/

theorem Led.perform (h : Led surroundings started index relay) (task : move.isTask = true)
    (worker : move ≠ .act (.worker index)) :
    Led surroundings started index (relay.perform surroundings move) where
  tasks := by
    rcases h.tasks with ⟨tasks, htasks, rfl⟩
    refine ⟨tasks ++ [move], ?_, (run_concat surroundings started tasks move).symm⟩
    intro other hmem
    rcases List.mem_append.1 hmem with hold | hlast
    · exact htasks other hold
    · exact List.mem_singleton.1 hlast ▸ task
  alone := by
    intro alone
    rw [h.alone alone]
    exact alone move task worker

/-- Every task keeps opening under way. -/
theorem Underway.perform (h : Underway surroundings started index base relay)
    (awaited : Awaited base) (task : move.isTask = true) :
    Underway surroundings started index base (relay.perform surroundings move) := by
  by_cases worker : move = .act (.worker index)
  · subst worker
    exact h.worker awaited
  by_cases collect : move = .act (.collect index)
  · subst collect
    exact h.collect awaited
  -- All other tasks leave the tunnel and its lines as they are.
  have hnow : (relay.perform surroundings move).now = relay.now := now_perform_task task
  have hsaid : (relay.perform surroundings move).said (.worker index) = relay.said (.worker index) :=
    said_perform_task task worker
  have hlines := lines_perform relay surroundings move
  have kept {tunnel : Tunnel} (found : relay.tunnels[index]? = some tunnel)
      (owner : tunnel.owner ≠ .closing) :
      (relay.perform surroundings move).tunnels[index]? = some tunnel :=
    perform_task_tunnel task found worker collect owner
  have hopening : base.owner ≠ .closing := by
    rw [awaited.owner]
    exact nofun
  cases h with
  | begun led now found said =>
      exact .begun (led.perform task worker) (hnow.trans now) (kept found hopening)
        (hsaid.trans said)
  | probing decides now found said =>
      exact .probing decides (hnow ▸ now) (kept found hopening) (hsaid.trans said)
  | decided decides now found said =>
      exact .decided decides (hnow.trans now) (kept found hopening) (hsaid.trans said)
  | answered answered now found =>
      refine .answered (answered.keep hsaid hlines) (hnow.trans now) (kept found ?_)
      rwa [answered.owner]
  | learned learned =>
      have hfound := kept learned.found (ownerAfter_ne_closing _)
      exact .learned ⟨learned.answered.keep hsaid hlines, hnow.trans learned.now,
        hnow.symm ▸ hfound⟩

theorem Underway.run {tasks : List Move} (h : Underway surroundings started index base relay)
    (awaited : Awaited base) (all : ∀ task ∈ tasks, Move.isTask task = true) :
    Underway surroundings started index base (relay.run surroundings tasks) := by
  induction tasks generalizing relay with
  | nil => exact h
  | cons task rest ih =>
      rcases List.forall_mem_cons.1 all with ⟨htask, hrest⟩
      exact ih (h.perform awaited htask) hrest

/-- Where no step is possible, the worker waits for its probe, or the caller has learned the result. -/
theorem Underway.settle (h : Underway surroundings started index base relay)
    (wellformed : Wellformed relay) (awaited : Awaited base) :
    (∃ offset verdict events, Decides surroundings started index base offset verdict ∧
      (relay.settle surroundings).now < base.startedAt + offset ∧
      (relay.settle surroundings).tunnels[index]? =
        some { base with phase := .probing (base.startedAt + offset) verdict events } ∧
      (relay.settle surroundings).said (.worker index) = [base.forwardingLine]) ∨
    ∃ offset tunnel result, Learned surroundings started index base (relay.settle surroundings)
      offset tunnel result := by
  have hquiet := nextTask?_settle surroundings relay
  rcases settle_eq_run surroundings relay with ⟨tasks, htasks, hrun⟩
  rw [hrun] at hquiet ⊢
  have hresting := (nextTask?_eq_none_iff (wellformed.run tasks)).1 hquiet
  cases h.run awaited htasks with
  | begun led now found said =>
      have hdue : workerIsDue (relay.run surroundings tasks).now base = true := by
        simp only [workerIsDue, awaited.phase]
      rw [(hresting index _ found).worker] at hdue
      cases hdue
  | @probing offset verdict events decides now found said =>
      have hrests := (hresting index _ found).worker
      simp only [workerIsDue, awaited.stopped, Bool.false_or, decide_eq_false_iff_not] at hrests
      exact .inl ⟨offset, verdict, events, decides, Nat.lt_of_not_le hrests, found, said⟩
  | decided decides now found said =>
      have hrests := (hresting index _ found).worker
      cases hrests
  | @answered offset tunnel result answered now found =>
      have hrests := (hresting index _ found).caller
      simp only [callerIsDue, answered.owner.trans awaited.owner, answered.known awaited,
        Option.isSome_some] at hrests
      cases hrests
  | @learned offset tunnel result learned => exact .inr ⟨offset, tunnel, result, learned⟩

/-! ## The caller -/

/-- Time does not go past the end of a probe. -/
theorem nextInstant_le {ends limit : Nat} {verdict : ProbeEnd} {events : List Event}
    (found : relay.tunnels[index]? = some tunnel) (phase : tunnel.phase = .probing ends verdict events)
    (later : relay.now < ends) : relay.nextInstant limit ≤ ends := by
  have hdue : workerDue? tunnel = some ends := by
    simp only [workerDue?, phase]
  have hmem : ends ∈ (relay.tunnels.filterMap workerDue? ++
      relay.connections.filterMap (connectionDue? relay.now)).filter (relay.now < ·) := by
    rw [List.mem_filter, List.mem_append, List.mem_filterMap]
    exact ⟨.inl ⟨tunnel, List.mem_of_getElem? found, hdue⟩, decide_eq_true later⟩
  cases hmin : relay.nextDue? with
  | none =>
      rw [nextDue?, List.min?_eq_none_iff] at hmin
      rw [hmin] at hmem
      cases hmem
  | some due =>
      have hle : due ≤ ends := (List.min?_eq_some_iff.1 hmin).2 ends hmem
      simp only [nextInstant, hmin, Option.getD_some]
      omega

theorem openedResult?_of_found (found : relay.tunnels[index]? = some tunnel) :
    relay.openedResult? index = tunnel.opened.map (·.2) := by
  simp only [openedResult?, found, Option.bind_some]

/-- The caller learns the answer at the instant of the verdict. -/
theorem waitUntil_learned {limit : Nat} (wellformed : Wellformed relay) (awaited : Awaited base)
    (enough : base.startedAt + base.options.readyTimeout.timerMillis ≤ limit)
    (h : Underway surroundings started index base relay) :
    ∃ offset tunnel result, Learned surroundings started index base
      (relay.waitUntil surroundings (fun r => (r.openedResult? index).isSome) limit) offset tunnel
        result := by
  have settled {relay : Relay σ} (wellformed : Wellformed relay) :
      Wellformed (relay.settle surroundings) := by
    rcases settle_eq_run surroundings relay with ⟨tasks, -, hrun⟩
    exact hrun ▸ wellformed.run tasks
  induction relay using waitUntil.induct surroundings (fun r => (r.openedResult? index).isSome)
    limit with
  | case1 relay last done =>
      rw [waitUntil]
      simp only [last] at done
      simp only [done, if_true]
      rcases h.settle wellformed awaited with
        ⟨offset, verdict, events, -, -, found, -⟩ | hlearned
      · rw [openedResult?_of_found found, awaited.opened] at done
        cases done
      · exact hlearned
  | case2 relay last going before ih =>
      rw [waitUntil]
      simp only [last] at going before ih
      simp only [going, before, Bool.false_eq_true, if_true, if_false]
      rcases h.settle wellformed awaited with
        ⟨offset, verdict, events, decides, early, found, said⟩ | ⟨_, _, _, learned⟩
      · have hforward := goTo_eq_run surroundings (Nat.le_of_lt (now_lt_nextInstant _ before))
        refine ih (hforward ▸ (settled wellformed).run _) ?_
        exact .probing decides (nextInstant_le found rfl early) found said
      · rw [openedResult?_of_found learned.found] at going
        exact absurd rfl going
  | case3 relay last going late =>
      simp only [last] at going late
      rcases h.settle wellformed awaited with
        ⟨offset, verdict, events, ⟨dialing, -, hverdict⟩, early, -, -⟩ | ⟨_, _, _, learned⟩
      · -- The limit is no earlier than the deadline, and no verdict is later.
        have hle := Probe.verdict_le base.options.probeSettle base.options.readyTimeout dialing
        rw [hverdict] at hle
        simp only at hle
        omega
      · rw [openedResult?_of_found learned.found] at going
        exact absurd rfl going

/-! ## Whole openings -/

section Openings

variable {options : TunnelOptions} (endpoint : Endpoint) (remotePort : Nat) {host : Ports.Host}
  {grant : Grant} {ports : Ports}

/-- The record of a tunnel whose port was just bound. -/
def beginning (relay : Relay σ) (options : TunnelOptions) (endpoint : Endpoint) (remotePort : Nat)
    (grant : Grant) : Tunnel :=
  .fresh endpoint remotePort options grant relay.now

theorem start_of_bound (bound : relay.ports.listen options.localPort host = (.ok grant, ports)) :
    (relay.start options endpoint remotePort host).1 = .ok relay.tunnels.length ∧
      (relay.start options endpoint remotePort host).2.tunnels =
        relay.tunnels ++ [relay.beginning options endpoint remotePort grant] ∧
      (relay.start options endpoint remotePort host).2.ports = ports := by
  have hlocated : Ports.located host.unnamed (relay.ports.bind options.localPort host) =
      (.ok grant, ports) := bound
  simp only [start, afterBind, bound, hlocated]
  exact ⟨rfl, rfl, rfl⟩

/-- The new tunnel is the last one. -/
theorem getElem?_start (bound : relay.ports.listen options.localPort host = (.ok grant, ports)) :
    (relay.start options endpoint remotePort host).2.tunnels[relay.tunnels.length]? =
      some (relay.beginning options endpoint remotePort grant) := by
  rw [(start_of_bound endpoint remotePort bound).2.1,
    List.getElem?_append_right (Nat.le_refl _), Nat.sub_self]
  rfl

theorem start_of_error {error : Error}
    (refused : relay.ports.listen options.localPort host = (.error error, ports)) :
    (relay.start options endpoint remotePort host).1 = .error error ∧
      (relay.start options endpoint remotePort host).2.tunnels = relay.tunnels ∧
      (relay.start options endpoint remotePort host).2.ports = ports := by
  have hlocated : Ports.located host.unnamed (relay.ports.bind options.localPort host) =
      (.error error, ports) := refused
  simp only [start, afterBind, refused, hlocated]
  exact ⟨rfl, rfl, rfl⟩

/-- Starting a tunnel takes no time, writes nothing and dials nothing. -/
theorem start_frame (relay : Relay σ) (options : TunnelOptions) (endpoint : Endpoint)
    (remotePort : Nat) (host : Ports.Host) :
    (relay.start options endpoint remotePort host).2.now = relay.now ∧
      (relay.start options endpoint remotePort host).2.lines = relay.lines ∧
      (relay.start options endpoint remotePort host).2.dials = relay.dials ∧
      (relay.start options endpoint remotePort host).2.remote = relay.remote ∧
      (relay.start options endpoint remotePort host).2.connections = relay.connections ∧
      (relay.start options endpoint remotePort host).2.bound = relay.bound := by
  rcases afterBind_frame relay options.localPort host.unnamed
    (relay.ports.bind options.localPort host) (.tunnel options endpoint remotePort) with
    ⟨hnow, hlines, hdials, hremote, hconnections⟩
  refine ⟨hnow, hlines, hdials, hremote, hconnections, ?_⟩
  simp only [start, afterBind]
  split <;> rfl

theorem Wellformed.start (h : Wellformed relay) (surroundings : Surroundings σ)
    (options : TunnelOptions) (endpoint : Endpoint) (remotePort : Nat) (host : Ports.Host) :
    Wellformed (relay.start options endpoint remotePort host).2 := by
  have performed : Wellformed
      (relay.perform surroundings (.act (.start options endpoint remotePort host))) := h.perform _
  exact performed

/-- Where no step is possible, the tunnels that there are rest beside a new one. -/
theorem restingBut_start (wellformed : Wellformed relay) (quiet : relay.nextTask? = none)
    (bound : relay.ports.listen options.localPort host = (.ok grant, ports)) :
    RestingBut (relay.start options endpoint remotePort host).2 relay.tunnels.length := by
  rcases start_of_bound endpoint remotePort bound with ⟨-, htunnels, -⟩
  rcases start_frame relay options endpoint remotePort host with ⟨hnow, -, -, -, hconnections, -⟩
  intro other tunnel another found
  have hlt : other < relay.tunnels.length := by
    have hle := (List.getElem?_eq_some_iff.1 found).1
    rw [htunnels, List.length_append, List.length_singleton] at hle
    omega
  rw [htunnels, List.getElem?_append_left hlt] at found
  have hresting := (nextTask?_eq_none_iff wellformed).1 quiet other tunnel found
  exact ⟨hnow ▸ hresting.worker, hresting.caller, hconnections ▸ hresting.accept,
    hnow ▸ hconnections ▸ hresting.connections⟩

/-- From a relay in which no step is possible, only the worker of the new tunnel can go on. -/
theorem alone_of_quiet (wellformed : Wellformed relay) (quiet : relay.nextTask? = none)
    (bound : relay.ports.listen options.localPort host = (.ok grant, ports)) :
    Alone surroundings (relay.start options endpoint remotePort host).2 relay.tunnels.length := by
  have hbut : RestingBut (relay.start options endpoint remotePort host).2 relay.tunnels.length :=
    restingBut_start endpoint remotePort wellformed quiet bound
  rcases start_of_bound endpoint remotePort bound with ⟨-, htunnels, -⟩
  rcases start_frame relay options endpoint remotePort host with ⟨-, -, -, -, hconnections, -⟩
  have hself := getElem?_start endpoint remotePort bound
  generalize (relay.start options endpoint remotePort host).2 = started at *
  have hnone (place : Nat) :
      started.connections[place]?.map (·.tunnel) ≠ some relay.tunnels.length := by
    intro howner
    rcases Option.map_eq_some_iff.1 howner with ⟨connection, found, heq⟩
    rw [hconnections] at found
    have hlt := wellformed.attached connection (List.mem_of_getElem? found)
    omega
  intro move task worker
  by_cases own : move.tunnel? started = some relay.tunnels.length
  · -- The new tunnel has no connections, and its caller has no result.
    cases move with
    | act action =>
        cases action with
        | worker index =>
            cases own
            exact absurd rfl worker
        | accept index =>
            cases own
            exact accept_of_not_forwarding hself (by simp [beginning, Tunnel.fresh])
        | collect index =>
            cases own
            exact collect_of_not_due hself rfl
        | join index =>
            cases own
            exact join_of_not_due hself rfl
        | connection place => exact absurd own (hnone place)
        | _ => cases task
    | overlookEnd place => exact absurd own (hnone place)
    | _ => cases task
  · exact hbut.perform_eq task own

theorem awaitOpening_of_opened {limit : Nat}
    (opened : (relay.waitUntil surroundings (fun r => (r.openedResult? index).isSome)
      limit).openedResult? index = some result) :
    relay.awaitOpening surroundings index limit none = (.done (result.map fun _ => index),
      relay.waitUntil surroundings (fun r => (r.openedResult? index).isSome) limit) := by
  have hpatient : ¬ (none : Option Nat) = some 0 := nofun
  simp only [awaitOpening, hpatient, if_false, opened]

/-- A tunnel whose port could be bound is answered for at the instant of the verdict. -/
theorem openTunnel_of_bound (surroundings : Surroundings σ) (wellformed : Wellformed relay)
    (silent : relay.said (.worker relay.tunnels.length) = [])
    (bound : relay.ports.listen options.localPort host = (.ok grant, ports)) :
    ∃ offset tunnel result, Learned surroundings (relay.start options endpoint remotePort host).2
        relay.tunnels.length (relay.beginning options endpoint remotePort grant)
        (relay.openTunnel surroundings options endpoint remotePort host none).2 offset tunnel result ∧
      (relay.openTunnel surroundings options endpoint remotePort host none).1 =
        .done (result.map fun _ => relay.tunnels.length) ∧
      ∃ moves, (∀ move ∈ moves, Move.isSpontaneous move = true) ∧
        (relay.openTunnel surroundings options endpoint remotePort host none).2 =
          (relay.start options endpoint remotePort host).2.run surroundings moves := by
  have hok := (start_of_bound endpoint remotePort bound).1
  have hself := getElem?_start endpoint remotePort bound
  rcases start_frame relay options endpoint remotePort host with ⟨hnow, hlines, -, -, -, -⟩
  have hstarted := wellformed.start surroundings options endpoint remotePort host
  unfold openTunnel
  cases hstart : relay.start options endpoint remotePort host with
  | mk granted started =>
      rw [hstart] at hok hself hnow hlines hstarted
      cases hok
      have hbegun : Underway surroundings started relay.tunnels.length
          (relay.beginning options endpoint remotePort grant) started :=
        .begun ⟨⟨[], nofun, rfl⟩, fun _ => rfl⟩ hnow hself ((said_of_lines hlines).trans silent)
      rcases waitUntil_learned hstarted (.fresh _ _ _ _ _) (Nat.le_refl _) hbegun with
        ⟨offset, tunnel, result, hlearned⟩
      have hopened := awaitOpening_of_opened (openedResult?_of_found hlearned.found)
      refine ⟨offset, tunnel, result, ?_, congrArg Prod.fst hopened, ?_⟩
      · exact (congrArg Prod.snd hopened).symm ▸ hlearned
      · rcases waitUntil_eq_run surroundings _ _ started with ⟨moves, hmoves, hrun⟩
        exact ⟨moves, hmoves, (congrArg Prod.snd hopened).trans hrun⟩

end Openings

end Relay

end Readiness
