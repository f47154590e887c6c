import Readiness.Proofs.Tunnel.Runs

/-!
# Lines — who writes what

The lines of a relay only grow, and a move writes lines of one actor at most.

* `Tunnel.Utterance` lists the texts that workers and connections write, and `Relay.Tells`: a step adds
  such texts of one actor;
* `Relay.Speaks`: a step adds lines of one actor, in front of which all others stay;
* `Move.speaker?` is the actor whose lines a move may write, and `Relay.perform_tells` and
  `Relay.perform_speaks` confirm it;
* `Relay.said` are the lines of one actor, and `Relay.said_perform` keeps them through the moves of all
  others;
* `Relay.BrokeOn`: the sink broke down on a line of an actor. What has happened stays so, and nothing
  new of this kind happens while the actor is silent.
-/

namespace Readiness

/-! ## Lists that grow -/

/-- A list has grown at its end, by items that satisfy a predicate. -/
def Adds {α : Type} (P : α → Prop) (before after : List α) : Prop :=
  ∃ more, after = before ++ more ∧ ∀ item ∈ more, P item

namespace Adds

variable {α : Type} {P Q : α → Prop} {before between after : List α}

theorem of_eq (same : after = before) : Adds P before after :=
  ⟨[], by rw [same, List.append_nil], nofun⟩

theorem concat {item : α} (h : P item) (same : after = before ++ [item]) : Adds P before after :=
  ⟨[item], same, by simpa using h⟩

theorem trans (first : Adds P before between) (second : Adds P between after) :
    Adds P before after := by
  rcases first with ⟨some, rfl, hsome⟩
  rcases second with ⟨more, rfl, hmore⟩
  refine ⟨some ++ more, List.append_assoc _ _ _, fun item hmem => ?_⟩
  rcases List.mem_append.1 hmem with hfirst | hsecond
  · exact hsome item hfirst
  · exact hmore item hsecond

theorem imp (h : Adds P before after) (weaker : ∀ item, P item → Q item) : Adds Q before after := by
  rcases h with ⟨more, rfl, hmore⟩
  exact ⟨more, rfl, fun item hmem => weaker item (hmore item hmem)⟩

/-- What all items of a list satisfied, and all that were added, all satisfy now. -/
theorem forall_mem (h : Adds P before after) (old : ∀ item ∈ before, P item) :
    ∀ item ∈ after, P item := by
  rcases h with ⟨more, rfl, hmore⟩
  intro item hmem
  rcases List.mem_append.1 hmem with hold | hnew
  · exact old item hold
  · exact hmore item hnew

theorem eq_of_none (h : Adds P before after) (none : ∀ item, ¬ P item) : after = before := by
  rcases h with ⟨more, rfl, hmore⟩
  cases more with
  | nil => exact List.append_nil before
  | cons item rest => exact absurd (hmore item List.mem_cons_self) (none item)

end Adds

/-! ## Texts -/

namespace Tunnel

/-- The texts that workers and connections write. -/
inductive Utterance : String → Prop
  | forwarding (tunnel : Tunnel) : Utterance tunnel.forwardingLine
  | failed (reason : String) : Utterance (errorLine reason)
  | stopped : Utterance stoppedLine
  | handling (tunnel : Tunnel) : Utterance tunnel.handlingLine
  | streamFailed (tunnel : Tunnel) (reason : String) : Utterance (tunnel.streamErrorLine reason)
  | copyingFailed (tunnel : Tunnel) (reason : String) : Utterance (tunnel.copyErrorLine reason)

end Tunnel

open Tunnel (Utterance)

namespace Relay

variable {σ : Type} {surroundings : Surroundings σ} {sink : Sink} {relay before after last : Relay σ}
  {move : Move} {actor : Actor} {line : String}

/-! ## Speaking -/

/-- What an actor adds to the lines. -/
def Speaks (actor : Actor) (before after : Relay σ) : Prop :=
  ∃ texts : List String, after.lines = before.lines ++ texts.map fun text => (actor, text)

/-- An actor adds texts of its kind to the lines. -/
def Tells (actor : Actor) (before after : Relay σ) : Prop :=
  Adds (fun line => line.1 = actor ∧ Utterance line.2) before.lines after.lines

theorem Tells.of_eq (same : after.lines = before.lines) : Tells actor before after := Adds.of_eq same

theorem Tells.trans (first : Tells actor before after) (second : Tells actor after last) :
    Tells actor before last := Adds.trans first second

theorem Tells.written {text : String} (utterance : Utterance text)
    (same : after.lines = (before.write actor text).lines) : Tells actor before after :=
  Adds.concat ⟨rfl, utterance⟩ same

/-- An actor that tells something speaks. -/
theorem Tells.speaks (tells : Tells actor before after) : Speaks actor before after := by
  rcases tells with ⟨more, hlines, told⟩
  have hown : more.map ((fun text => (actor, text)) ∘ (·.2)) = more.map id :=
    List.map_congr_left fun line hmem => Prod.ext (told line hmem).1.symm rfl
  exact ⟨more.map (·.2), by rw [hlines, List.map_map, hown, List.map_id]⟩

section Workers

variable (relay : Relay σ) (index : Nat) (tunnel : Tunnel)

theorem tells_greet (surroundings : Surroundings σ) :
    Tells (.worker index) relay (relay.greet surroundings index tunnel) := by
  refine .written (.forwarding tunnel) ?_
  unfold greet
  dsimp only
  split
  · rfl
  · split <;> rfl

theorem tells_fail (sink : Sink) (reason : String) :
    Tells (.worker index) relay (relay.fail sink index tunnel reason) := by
  refine .written (.failed reason) ?_
  unfold fail
  dsimp only
  split <;> rfl

theorem tells_halt (sink : Sink) {line : String} (utterance : Utterance line) (state : TunnelState)
    (how : WorkerEnd) : Tells (.worker index) relay (relay.halt sink index tunnel line state how) := by
  refine .written utterance ?_
  unfold halt
  dsimp only
  split <;> rfl

theorem tells_conclude (sink : Sink) (verdict : ProbeEnd) :
    Tells (.worker index) relay (relay.conclude sink index tunnel verdict) := by
  cases verdict with
  | ready =>
      refine .of_eq ?_
      simp only [conclude, becomeReady]
      split <;> rfl
  | failed reason => exact tells_fail relay index tunnel sink reason
  | panicked reason => exact .of_eq rfl

theorem tells_runWorker (surroundings : Surroundings σ) :
    Tells (.worker index) relay (relay.runWorker surroundings index) := by
  unfold runWorker
  split
  · exact .of_eq rfl
  · split
    · exact tells_greet relay index _ surroundings
    · split
      · exact .of_eq rfl
      · split <;> exact .of_eq rfl
    · exact tells_conclude relay index _ surroundings.sink _
    · split
      · exact tells_halt relay index _ surroundings.sink .stopped _ _
      · exact .of_eq rfl
    · exact .of_eq rfl

theorem tells_failAccept (surroundings : Surroundings σ) (reason : String) :
    Tells (.worker index) relay (relay.failAccept surroundings index reason) := by
  unfold failAccept
  split
  · exact .of_eq rfl
  · split
    · exact tells_halt relay index _ surroundings.sink (.failed _) _ _
    · exact .of_eq rfl

end Workers

section Connections

variable (relay : Relay σ) (index : Nat) (tunnel : Tunnel)

theorem tells_openStream (surroundings : Surroundings σ) (noticed : Bool) :
    Tells (.connection index) relay (relay.openStream surroundings index tunnel noticed) := by
  refine .written (.handling tunnel) ?_
  unfold openStream
  dsimp only
  split
  · rfl
  · split <;> rfl

theorem tells_streamOpened (outcome : DialEnd) :
    Tells (.connection index) relay (relay.streamOpened index tunnel outcome) := by
  cases outcome with
  | connected remote => exact .of_eq rfl
  | refused error => exact .written (.streamFailed tunnel error.message) rfl
  | panicked reason => exact .of_eq rfl

theorem tells_endStream (link : Link) :
    Tells (.connection index) relay (relay.endStream index tunnel link) := by
  unfold endStream
  split
  · exact .written (.streamFailed tunnel _) rfl
  · exact .of_eq rfl

theorem tells_copyStream (sink : Sink) (client : Client) (link : Link) (noticed : Bool) :
    Tells (.connection index) relay (relay.copyStream sink index tunnel client link noticed) := by
  unfold copyStream
  split
  · exact tells_endStream relay index tunnel link
  · -- Bytes move without a line, and a failure may be told twice: by copying and by the report.
    have moved (f : Connection → Connection) :
        Tells (.connection index) relay (relay.updateConnection index f) := .of_eq rfl
    have failed (reason : String) (f : Connection → Connection) :
        Tells (.connection index) relay
          ((relay.updateConnection index f).write (.connection index) (tunnel.copyErrorLine reason)) :=
      .written (.copyingFailed tunnel reason) rfl
    dsimp only
    split
    · exact moved _
    · exact (moved _).trans (tells_endStream _ index tunnel _)
    · split
      · exact (failed _ _).trans (.of_eq rfl)
      · exact (failed _ _).trans (tells_endStream _ index tunnel _)

theorem tells_goOn (surroundings : Surroundings σ) (connection : Connection) (noticed : Bool) :
    Tells (.connection index) relay
      (relay.goOn surroundings index connection tunnel noticed) := by
  unfold goOn
  split
  · split <;> exact .of_eq rfl
  · exact tells_openStream relay index tunnel surroundings noticed
  · split
    · exact .of_eq rfl
    · split
      · exact .of_eq rfl
      · split
        · exact .of_eq rfl
        · exact tells_streamOpened relay index tunnel _
  · exact tells_copyStream relay index tunnel surroundings.sink _ _ noticed
  · exact .of_eq rfl

theorem tells_runConnection (surroundings : Surroundings σ) :
    Tells (.connection index) relay (relay.runConnection surroundings index) := by
  unfold runConnection
  split
  · exact tells_goOn relay index _ surroundings _ _
  · exact .of_eq rfl

theorem tells_overlookEnd (surroundings : Surroundings σ) :
    Tells (.connection index) relay (relay.overlookEnd surroundings index) := by
  unfold overlookEnd
  split
  · exact tells_goOn relay index _ surroundings _ _
  · exact .of_eq rfl

end Connections

/-! ## Speakers -/

/-- The actor whose lines a move may write. -/
def Move.speaker? : Move → Option Actor
  | .act (.worker tunnel) | .failAccept tunnel _ => some (.worker tunnel)
  | .act (.connection index) | .overlookEnd index => some (.connection index)
  | _ => none

theorem Move.speaker_ne_caller (speaker : move.speaker? = some actor) : actor ≠ .caller := by
  rintro rfl
  cases move with
  | act action => cases action <;> cases speaker
  | _ => cases speaker

theorem lines_step_of_silent (relay : Relay σ) (surroundings : Surroundings σ) {action : Action}
    (silent : Move.speaker? (.act action) = none) :
    (relay.step surroundings action).lines = relay.lines := by
  cases action with
  | worker tunnel => cases silent
  | connection index => cases silent
  | start options endpoint remotePort host => exact (afterBind_frame relay _ _ _ _).2.1
  | bind requested host => exact (afterBind_frame relay _ _ _ _).2.1
  | _ =>
      simp only [step, abandon, close, drop, dropListener, dropLease, connect, updateClient, collect,
        join, accept]
      repeat' split
      all_goals rfl

theorem lines_perform_of_silent (relay : Relay σ) (surroundings : Surroundings σ)
    (silent : move.speaker? = none) :
    (relay.perform surroundings move).lines = relay.lines := by
  cases move with
  | act action => exact lines_step_of_silent relay surroundings silent
  | overlookEnd index => cases silent
  | failAccept tunnel reason => cases silent
  | answerFixed ticket host purpose =>
      simp only [perform, answerFixed]
      split
      · rfl
      · exact (afterBind_frame relay _ _ _ _).2.1
  | answerFree host purpose => exact (afterBind_frame relay _ _ _ _).2.1
  | _ =>
      simp only [perform, cancel, leaveClosing]
      repeat' split
      all_goals rfl

/-- Who speaks in a move tells what its actor has to tell. -/
theorem perform_tells (relay : Relay σ) (surroundings : Surroundings σ)
    (speaker : move.speaker? = some actor) :
    Tells actor relay (relay.perform surroundings move) := by
  cases move with
  | act action =>
      cases action with
      | worker tunnel =>
          cases speaker
          exact tells_runWorker relay tunnel surroundings
      | connection index =>
          cases speaker
          exact tells_runConnection relay index surroundings
      | _ => cases speaker
  | overlookEnd index =>
      cases speaker
      exact tells_overlookEnd relay index surroundings
  | failAccept tunnel reason =>
      cases speaker
      exact tells_failAccept relay tunnel surroundings reason
  | _ => cases speaker

/-- A move writes lines of its speaker alone. -/
theorem perform_speaks (relay : Relay σ) (surroundings : Surroundings σ) (move : Move) :
    (move.speaker? = none ∧ (relay.perform surroundings move).lines = relay.lines) ∨
      ∃ actor, move.speaker? = some actor ∧ Speaks actor relay (relay.perform surroundings move) := by
  cases hspeaker : move.speaker? with
  | none => exact .inl ⟨rfl, lines_perform_of_silent relay surroundings hspeaker⟩
  | some actor => exact .inr ⟨actor, rfl, (perform_tells relay surroundings hspeaker).speaks⟩

/-! ## The lines of one actor -/

def said (relay : Relay σ) (actor : Actor) : List String :=
  (relay.lines.filter (·.1 = actor)).map (·.2)

theorem said_of_lines (same : after.lines = before.lines) : after.said actor = before.said actor := by
  rw [said, same]
  rfl

theorem said_of_write (same : after.lines = (before.write actor line).lines) :
    after.said actor = before.said actor ++ [line] := by
  simp only [said, same, write, List.filter_append, List.map_append, List.filter_cons,
    List.filter_nil, decide_true, if_true, List.map_cons, List.map_nil]

theorem said_of_spoken {texts : List String}
    (lines : after.lines = before.lines ++ texts.map fun text => (actor, text)) :
    after.said actor = before.said actor ++ texts := by
  have hown : (texts.map fun text => (actor, text)).filter (·.1 = actor) =
      texts.map fun text => (actor, text) := by
    simp [List.filter_eq_self]
  simp only [said, lines, List.filter_append, hown, List.map_append, List.map_map, Function.comp_def,
    List.map_id']

/-- What an actor has added to its lines is what a step by it has added to all of them. -/
theorem Speaks.lines_of_said {texts : List String} (speaks : Speaks actor before after)
    (said : after.said actor = before.said actor ++ texts) :
    after.lines = before.lines ++ texts.map fun text => (actor, text) := by
  rcases speaks with ⟨spoken, hspoken⟩
  rw [said_of_spoken hspoken] at said
  rw [hspoken, List.append_cancel_left said]

/-- The lines of an actor stay as they are while another one speaks. -/
theorem Speaks.said_of_ne {other : Actor} (speaks : Speaks actor before after)
    (another : actor ≠ other) : after.said other = before.said other := by
  rcases speaks with ⟨texts, hlines⟩
  have hnone : (texts.map fun text => (actor, text)).filter (·.1 = other) = [] := by
    simp [List.filter_eq_nil_iff, another]
  rw [said, hlines, List.filter_append, hnone, List.append_nil]
  rfl

theorem said_perform (silent : move.speaker? ≠ some actor) :
    (relay.perform surroundings move).said actor = relay.said actor := by
  rcases perform_speaks relay surroundings move with ⟨-, hsame⟩ | ⟨other, hspeaker, hspeaks⟩
  · exact said_of_lines hsame
  · refine hspeaks.said_of_ne ?_
    rintro rfl
    exact silent hspeaker

theorem lines_perform (relay : Relay σ) (surroundings : Surroundings σ) (move : Move) :
    relay.lines <+: (relay.perform surroundings move).lines := by
  rcases perform_speaks relay surroundings move with ⟨-, hsame⟩ | ⟨_, -, texts, hlines⟩
  · exact hsame ▸ List.prefix_refl _
  · exact hlines ▸ List.prefix_append _ _

theorem lines_run (surroundings : Surroundings σ) (relay : Relay σ) (moves : List Move) :
    relay.lines <+: (relay.run surroundings moves).lines := by
  induction moves generalizing relay with
  | nil => exact List.prefix_refl _
  | cons move rest ih => exact (lines_perform relay surroundings move).trans (ih _)

/-! ## Actors that are not there yet -/

/-- The worker or the connection of an actor does not exist. -/
def IsAbsent (relay : Relay σ) : Actor → Prop
  | .worker tunnel => relay.tunnels[tunnel]? = none
  | .connection index => relay.connections[index]? = none
  | .caller => False

theorem Extends.isAbsent (h : Extends before after) (absent : IsAbsent after actor) :
    IsAbsent before actor := by
  cases actor with
  | worker index =>
      cases found : before.tunnels[index]? with
      | none => exact found
      | some tunnel =>
          rcases h.tunnels index tunnel found with ⟨later, hlater, -⟩
          cases absent.symm.trans hlater
  | connection index =>
      cases found : before.connections[index]? with
      | none => exact found
      | some connection =>
          rcases h.connections index connection found with ⟨later, hlater, -⟩
          cases absent.symm.trans hlater
  | caller => exact absent

theorem perform_of_isAbsent (absent : IsAbsent relay actor) (speaker : move.speaker? = some actor) :
    relay.perform surroundings move = relay := by
  have hnone {index : Nat} (missing : relay.connections[index]? = none) :
      relay.connection? index = none := by
    rw [connection?, missing, Option.bind_none]
  cases move with
  | act action =>
      cases action with
      | worker index =>
          cases speaker
          simp only [perform, step, runWorker, (show relay.tunnels[index]? = none from absent)]
      | connection index =>
          cases speaker
          simp only [perform, step, runConnection, hnone absent]
      | _ => cases speaker
  | overlookEnd index =>
      cases speaker
      simp only [perform, overlookEnd, hnone absent]
  | failAccept index reason =>
      cases speaker
      simp only [perform, failAccept, (show relay.tunnels[index]? = none from absent)]
  | _ => cases speaker

/-- Nobody has spoken who is not there. -/
theorem said_run_of_isAbsent (surroundings : Surroundings σ) (reachable : Bool) (remote : σ)
    (moves : List Move)
    (absent : IsAbsent ((idle reachable remote).run surroundings moves) actor) :
    ((idle reachable remote).run surroundings moves).said actor = [] := by
  refine run_induction (P := fun _ relay => IsAbsent relay actor → relay.said actor = [])
    (.idle reachable remote) (fun _ => rfl) ?_ moves absent
  intro moves move before wellformed _ ih absent
  have hextends : Extends before (before.perform surroundings move) := run_extends wellformed [move]
  have hbefore := hextends.isAbsent absent
  by_cases speaks : move.speaker? = some actor
  · rw [perform_of_isAbsent hbefore speaks]
    exact ih hbefore
  · exact (said_perform speaks).trans (ih hbefore)

/-! ## Sinks that break down -/

/-- The sink broke down on a line of an actor. -/
def BrokeOn (sink : Sink) (relay : Relay σ) (actor : Actor) (line : String) : Prop :=
  ∃ earlier later, relay.lines = earlier ++ (actor, line) :: later ∧
    (sink.refusal (earlier.map (·.2)) line).isSome = true

theorem BrokeOn.of_refusal? {reason : String} (refusal : before.refusal? sink line = some reason)
    (same : after.lines = (before.write actor line).lines) : BrokeOn sink after actor line := by
  refine ⟨before.lines, [], same, ?_⟩
  have hrefusal : sink.refusal (before.lines.map (·.2)) line = some reason := refusal
  rw [hrefusal]
  rfl

theorem BrokeOn.mono (h : BrokeOn sink before actor line) (lines : before.lines <+: after.lines) :
    BrokeOn sink after actor line := by
  rcases h with ⟨earlier, later, hlines, hrefusal⟩
  rcases lines with ⟨more, hmore⟩
  exact ⟨earlier, later ++ more, by rw [← hmore, hlines, List.append_assoc, List.cons_append],
    hrefusal⟩

/-- The sink broke down on a line that was there before, or on one of the new ones. -/
theorem BrokeOn.split {more : List (Actor × String)} (lines : after.lines = before.lines ++ more)
    (h : BrokeOn sink after actor line) :
    BrokeOn sink before actor line ∨ ∃ front rear, more = front ++ (actor, line) :: rear ∧
      (sink.refusal ((before.lines ++ front).map (·.2)) line).isSome = true := by
  rcases h with ⟨earlier, later, hlines, hrefusal⟩
  rcases List.append_eq_append_iff.1 (lines.symm.trans hlines) with
    ⟨front, rfl, hmore⟩ | ⟨rest, hbefore, hrest⟩
  · exact .inr ⟨front, later, hmore, hrefusal⟩
  · cases rest with
    | nil =>
        rw [List.append_nil] at hbefore
        refine .inr ⟨[], later, hrest.symm, ?_⟩
        rwa [List.append_nil, hbefore]
    | cons first rest =>
        rw [List.cons_append, List.cons.injEq] at hrest
        rcases hrest with ⟨rfl, -⟩
        exact .inl ⟨earlier, rest, hbefore, hrefusal⟩

theorem BrokeOn.of_lines_eq (h : BrokeOn sink after actor line) (same : after.lines = before.lines) :
    BrokeOn sink before actor line := by
  rcases h with ⟨earlier, later, hlines, hrefusal⟩
  exact ⟨earlier, later, same ▸ hlines, hrefusal⟩

/-- A line on which the sink broke down was said. -/
theorem BrokeOn.mem_said (h : BrokeOn sink relay actor line) : line ∈ relay.said actor := by
  rcases h with ⟨earlier, later, hlines, -⟩
  refine List.mem_map.2 ⟨(actor, line), List.mem_filter.2 ⟨?_, by simp⟩, rfl⟩
  rw [hlines]
  exact List.mem_append_right _ List.mem_cons_self

/-- The sink broke down on nothing new while an actor said nothing. -/
theorem BrokeOn.of_said_eq (h : BrokeOn sink after actor line) (lines : before.lines <+: after.lines)
    (same : after.said actor = before.said actor) : BrokeOn sink before actor line := by
  rcases lines with ⟨more, hmore⟩
  rcases h.split hmore.symm with hbefore | ⟨front, rear, rfl, -⟩
  · exact hbefore
  · rw [said, ← hmore, List.filter_append, List.map_append] at same
    have hnone := List.map_eq_nil_iff.1 (List.append_right_eq_self.1 same)
    have hmem : (actor, line) ∈ front ++ (actor, line) :: rear :=
      List.mem_append_right front List.mem_cons_self
    exact absurd (decide_eq_true rfl) (List.filter_eq_nil_iff.1 hnone (actor, line) hmem)

end Relay

end Readiness
