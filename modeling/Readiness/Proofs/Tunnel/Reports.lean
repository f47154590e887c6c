import Readiness.Proofs.Tunnel.Settling
import Readiness.Proofs.Tunnel.Traces

/-!
# Reports — what becomes of the failure report of a connection

A connection looks at the failure report of its stream once, in the turn that ends its copying.

* `Link.IsTo`: copying leaves the far side of a stream and the instant of its opening as they are;
* `Connection.Concluding` has one rule for each way in which a connection writes its last lines, and
  `Connection.meet_of_copying`: what it meets while it copies leaves it copying without a line, or
  makes it conclude;
* `Relay.said_of_copying`: in every run, a connection that copies has written its first line only, and
  `Relay.copying_run`: its stream is the one that was opened;
* `Relay.reports_are_told_as_copying_ends`: a message that is there when the copying ends is written
  once, and one that comes later never.
-/

namespace Readiness

/-! ## Streams -/

namespace Link

variable {now : Nat} {client next : Client} {link after : Link} {remote : RemoteEnd} {since : Nat}
  {copied : Copied}

/-- The stream to a far side that was opened at an instant, whatever has moved since. -/
structure IsTo (link : Link) (remote : RemoteEnd) (since : Nat) : Prop where
  remote : link.remote = remote
  since : link.since = since

theorem isTo_opened (remote : RemoteEnd) (since : Nat) : (opened remote since).IsTo remote since :=
  ⟨rfl, rfl⟩

theorem IsTo.receive {coming : List (Nat × Arrival)} (h : link.IsTo remote since)
    (received : link.receive now client coming = (next, after, copied)) : after.IsTo remote since := by
  induction coming generalizing client with
  | nil =>
      cases received
      exact ⟨h.remote, h.since⟩
  | cons first rest ih =>
      rcases first with ⟨offset, arrival⟩
      unfold Link.receive at received
      split at received
      · cases received
        exact ⟨h.remote, h.since⟩
      · cases arrival with
        | data bytes => exact ih received
        | eof =>
            cases received
            exact ⟨h.remote, h.since⟩
        | failure reason =>
            cases received
            exact ⟨h.remote, h.since⟩

theorem IsTo.send (h : link.IsTo remote since) (sent : link.send client = (next, after, copied)) :
    after.IsTo remote since := by
  unfold Link.send at sent
  split at sent
  · cases sent
    exact h
  · cases sent
    exact ⟨h.remote, h.since⟩

theorem IsTo.react (h : link.IsTo remote since) (reacted : link.react now client = (next, after)) :
    after.IsTo remote since := by
  unfold Link.react at reacted
  split at reacted
  · cases reacted
    exact h
  · dsimp only at reacted
    split at reacted
    · cases reacted
      exact ⟨h.remote, h.since⟩
    · cases reacted
      exact ⟨h.remote, h.since⟩
    · split at reacted <;> cases reacted <;> exact ⟨h.remote, h.since⟩
    · split at reacted <;> cases reacted <;> exact ⟨h.remote, h.since⟩

theorem IsTo.copy (h : link.IsTo remote since)
    (pass : link.copy now client = (next, after, copied)) : after.IsTo remote since := by
  unfold Link.copy at pass
  split at pass
  · rename_i received hreceive
    have hreceived := h.receive hreceive
    split at pass
    · rename_i sent hsend
      have hsent := hreceived.send hsend
      cases pass
      exact hsent.react rfl
    · exact hreceived.send pass
  · exact h.receive pass

/-- What the report of a far side has brought by an instant. -/
theorem IsTo.reported?_eq (h : link.IsTo remote since) (now : Nat) :
    link.reported? now = (opened remote since).reported? now := by
  unfold reported?
  rw [h.remote, h.since]
  rfl

theorem reported?_opened_of_message {offset : Nat} {text : String}
    (report : remote.report = some (.message offset text)) (since now : Nat) :
    (opened remote since).reported? now = if since + offset ≤ now then some text else none := by
  unfold reported? opened
  rw [report]

theorem reported?_opened_of_no_message
    (report : ∀ offset text, remote.report ≠ some (.message offset text)) (since now : Nat) :
    (opened remote since).reported? now = none := by
  cases hreport : remote.report with
  | none => simp only [reported?, opened, hreport]
  | some kind =>
      cases kind with
      | message offset text => exact absurd hreport (report offset text)
      | dropped offset => simp only [reported?, opened, hreport]
      | silent => simp only [reported?, opened, hreport]

end Link

/-! ## Lines -/

/-- Texts that begin differently differ, whatever follows. -/
theorem append_ne_append (first second : String) (count : Nat)
    (long : count ≤ first.toList.length ∧ count ≤ second.toList.length)
    (differ : first.toList.take count ≠ second.toList.take count) (rest other : String) :
    first ++ rest ≠ second ++ other := by
  intro heq
  have htake := congrArg (fun text => text.toList.take count) heq
  simp only [String.toList_append] at htake
  rw [List.take_append_of_le_length long.1, List.take_append_of_le_length long.2] at htake
  exact differ htake

namespace Tunnel

variable (tunnel : Tunnel) (reason other : String)

theorem streamErrorLine_ne_handlingLine : tunnel.streamErrorLine reason ≠ tunnel.handlingLine := by
  have hne := append_ne_append "error forwarding port " "Handling connection for " 1 (by decide)
    (by decide)
  unfold streamErrorLine handlingLine
  rw [String.append_assoc, String.append_assoc]
  exact hne _ _

theorem copyErrorLine_ne_handlingLine : tunnel.copyErrorLine reason ≠ tunnel.handlingLine := by
  have hne := append_ne_append "error copying port " "Handling connection for " 1 (by decide)
    (by decide)
  unfold copyErrorLine handlingLine
  rw [String.append_assoc, String.append_assoc]
  exact hne _ _

theorem streamErrorLine_ne_copyErrorLine :
    tunnel.streamErrorLine reason ≠ tunnel.copyErrorLine other := by
  have hne := append_ne_append "error forwarding port " "error copying port " 7 (by decide)
    (by decide)
  unfold streamErrorLine copyErrorLine
  rw [String.append_assoc, String.append_assoc, String.append_assoc, String.append_assoc]
  exact hne _ _

end Tunnel

/-! ## Turns of a connection -/

namespace Connection

variable {connection : Connection} {link : Link} {remote : RemoteEnd} {since : Nat}

/-- What the report of a stream makes a connection write that stops copying at an instant. -/
def reportLines (tunnel : Tunnel) (remote : RemoteEnd) (since now : Nat) : List String :=
  (((Link.opened remote since).reported? now).map tunnel.streamErrorLine).toList

theorem reportLines_of_message {offset : Nat} {text : String}
    (report : remote.report = some (.message offset text)) (tunnel : Tunnel) (since now : Nat) :
    reportLines tunnel remote since now =
      if since + offset ≤ now then [tunnel.streamErrorLine text] else [] := by
  rw [reportLines, Link.reported?_opened_of_message report]
  split <;> rfl

theorem reportLines_of_no_message
    (report : ∀ offset text, remote.report ≠ some (.message offset text)) (tunnel : Tunnel)
    (since now : Nat) : reportLines tunnel remote since now = [] := by
  rw [reportLines, Link.reported?_opened_of_no_message report]
  rfl

/-- The lines of the turn that ends the copying of a connection. -/
inductive Concluding (tunnel : Tunnel) (remote : RemoteEnd) (since now : Nat)
    (breaks : String → Bool) : List String → Prop
  | told : Concluding tunnel remote since now breaks (reportLines tunnel remote since now)
  | troubled (reason : String) (taken : breaks (tunnel.copyErrorLine reason) = false) :
      Concluding tunnel remote since now breaks
        (tunnel.copyErrorLine reason :: reportLines tunnel remote since now)
  -- The report is not looked at behind a line on which the sink broke down.
  | brokenOff (reason : String) (broke : breaks (tunnel.copyErrorLine reason) = true) :
      Concluding tunnel remote since now breaks [tunnel.copyErrorLine reason]

/-- What comes of an encounter of a connection that copies a stream. -/
inductive Copies (tunnel : Tunnel) (remote : RemoteEnd) (since : Nat) (meeting : Meeting) :
    Encounter → Prop
  | going {encounter : Encounter} {link : Link} (phase : meeting.next.phase = .copying link)
      (stream : link.IsTo remote since) (lines : meeting.lines = []) :
      Copies tunnel remote since meeting encounter
  | ending {now : Nat} {noticed : Bool} {dialing : Dialing} {breaks : String → Bool}
      (phase : meeting.next.phase = .ended)
      (lines : Concluding tunnel remote since now breaks meeting.lines) :
      Copies tunnel remote since meeting (.turn now noticed dialing breaks)

theorem endStream_lines (tunnel : Tunnel) (stream : link.IsTo remote since) (now : Nat)
    (connection : Connection) :
    (connection.endStream tunnel now link).lines = reportLines tunnel remote since now := by
  simp only [endStream, reportLines, stream.reported?_eq]

theorem copyStream_copies (tunnel : Tunnel) (stream : link.IsTo remote since) (now : Nat)
    (noticed : Bool) (dialing : Dialing) (breaks : String → Bool) (connection : Connection) :
    Copies tunnel remote since (connection.copyStream tunnel now noticed breaks link)
      (.turn now noticed dialing breaks) := by
  cases noticed with
  | true =>
      simp only [copyStream, if_true]
      exact .ending rfl (endStream_lines tunnel stream now connection ▸ .told)
  | false =>
      cases hcopy : link.copy now connection.client with
      | mk client rest =>
          rcases rest with ⟨after, copied⟩
          have hafter : after.IsTo remote since := stream.copy hcopy
          simp only [copyStream, hcopy, Bool.false_eq_true, if_false]
          cases copied with
          | goesOn => exact .going rfl hafter rfl
          | done => exact .ending rfl (endStream_lines tunnel hafter now _ ▸ .told)
          | broken reason =>
              cases hbreaks : breaks (tunnel.copyErrorLine reason) with
              | true =>
                  simp only [hbreaks, if_true]
                  exact .ending rfl (.brokenOff reason hbreaks)
              | false =>
                  simp only [hbreaks, Bool.false_eq_true, if_false]
                  refine .ending rfl ?_
                  dsimp only
                  rw [endStream_lines tunnel hafter now]
                  exact .troubled reason hbreaks

/-- What a connection that copies meets leaves it copying without a line, or makes it conclude. -/
theorem meet_of_copying (tunnel : Tunnel) (phase : connection.phase = .copying link)
    (stream : link.IsTo remote since) (encounter : Encounter) :
    Copies tunnel remote since (connection.meet tunnel encounter) encounter := by
  cases encounter with
  | accepted =>
      refine .going ?_ stream rfl
      simp [meet, becomes, phase]
  | sent bytes => exact .going phase stream rfl
  | finished => exact .going phase stream rfl
  | took count => exact .going phase stream rfl
  | turn now noticed dialing breaks =>
      simp only [meet, turn, phase]
      exact copyStream_copies tunnel stream now noticed dialing breaks connection

/-- A connection that has ended does and says nothing more. -/
theorem meet_of_ended (tunnel : Tunnel) (phase : connection.phase = .ended) (encounter : Encounter) :
    (connection.meet tunnel encounter).next.phase = .ended ∧
      (connection.meet tunnel encounter).lines = [] := by
  cases encounter with
  | accepted => simp [meet, becomes, phase]
  | sent bytes => exact ⟨phase, rfl⟩
  | finished => exact ⟨phase, rfl⟩
  | took count => exact ⟨phase, rfl⟩
  | turn now noticed dialing breaks => simp [meet, turn, becomes, phase]

/-! ### First lines -/

/-- What a connection has written by a phase, unless it has ended. -/
def written? (tunnel : Tunnel) : ConnectionPhase → Option (List String)
  | .waiting | .accepted => some []
  | .dialing _ _ | .copying _ => some [tunnel.handlingLine]
  | .ended => none

/-- A connection that dials says nothing until it ends. -/
theorem turn_of_dialing {dialing : Dialing} (phase : connection.phase = .dialing since dialing)
    (tunnel : Tunnel) (now : Nat) (noticed : Bool) (other : Dialing) (breaks : String → Bool) :
    (connection.turn tunnel now noticed other breaks).next.phase = .ended ∨
      (connection.turn tunnel now noticed other breaks).lines = [] ∧
        written? tunnel (connection.turn tunnel now noticed other breaks).next.phase =
          some [tunnel.handlingLine] := by
  have still : written? tunnel connection.phase = some [tunnel.handlingLine] := by
    rw [phase]
    rfl
  simp only [turn, phase]
  split
  · exact .inl rfl
  · cases dialing with
    | never => exact .inr ⟨rfl, still⟩
    | after delay outcome events =>
        dsimp only
        split
        · exact .inr ⟨rfl, still⟩
        · cases outcome with
          | connected remote => exact .inr ⟨rfl, rfl⟩
          | refused error => exact .inl rfl
          | panicked reason => exact .inl rfl

/-- The lines of an encounter are those by which its phases differ. -/
theorem meet_written (tunnel : Tunnel) (connection : Connection) (encounter : Encounter)
    {texts : List String}
    (h : written? tunnel (connection.meet tunnel encounter).next.phase = some texts) :
    ∃ before, written? tunnel connection.phase = some before ∧
      texts = before ++ (connection.meet tunnel encounter).lines := by
  have same (h : written? tunnel connection.phase = some texts) :
      ∃ before, written? tunnel connection.phase = some before ∧ texts = before ++ [] :=
    ⟨texts, h, (List.append_nil texts).symm⟩
  cases encounter with
  | accepted =>
      refine same ?_
      by_cases waiting : connection.phase = .waiting
      · simpa [meet, becomes, waiting, written?] using h
      · simpa [meet, becomes, waiting] using h
  | sent bytes => exact same h
  | finished => exact same h
  | took count => exact same h
  | turn now noticed dialing breaks =>
      cases phase : connection.phase with
      | waiting =>
          cases noticed with
          | true => simp [meet, turn, phase, becomes, close, written?] at h
          | false => simpa [meet, turn, phase, becomes, written?] using h.symm
      | accepted =>
          simp only [meet, turn, phase, openStream] at h ⊢
          split at h
          · cases h
          · rename_i taken
            cases h
            rw [if_neg taken]
            exact ⟨[], rfl, rfl⟩
      | dialing since dialing =>
          refine ⟨[tunnel.handlingLine], rfl, ?_⟩
          simp only [meet] at h ⊢
          rcases turn_of_dialing phase tunnel now noticed _ breaks with hended | ⟨hlines, hwritten⟩
          · rw [hended] at h
            cases h
          · rw [hwritten] at h
            cases h
            rw [hlines, List.append_nil]
      | copying link =>
          refine ⟨[tunnel.handlingLine], rfl, ?_⟩
          cases connection.meet_of_copying tunnel phase ⟨rfl, rfl⟩
            (.turn now noticed dialing breaks) with
          | going after stream lines =>
              rw [after] at h
              cases h
              rw [lines, List.append_nil]
          | ending after lines =>
              rw [after] at h
              cases h
      | ended =>
          rw [(meet_of_ended tunnel phase (.turn now noticed dialing breaks)).1] at h
          cases h

/-- A connection that has not ended has written what its phase says. -/
theorem lines_after (tunnel : Tunnel) (phase : connection.phase = .waiting)
    (encounters : List Encounter) {texts : List String}
    (h : written? tunnel (connection.after tunnel encounters).next.phase = some texts) :
    (connection.after tunnel encounters).lines = texts := by
  induction encounters using List.reverseRecOn generalizing texts with
  | nil =>
      have hwaiting : written? tunnel connection.phase = some texts := h
      rw [phase] at hwaiting
      cases hwaiting
      rfl
  | append_singleton earlier encounter ih =>
      rw [after_concat] at h ⊢
      rcases meet_written tunnel _ encounter h with ⟨before, hbefore, rfl⟩
      dsimp only
      rw [ih hbefore]

end Connection

/-! ## Turns of a relay -/

namespace Relay

variable {σ : Type} {surroundings : Surroundings σ} {sink : Sink} {relay before after : Relay σ}
  {move : Move} {place since now : Nat} {connection later : Connection} {tunnel owner : Tunnel}
  {link : Link} {far : RemoteEnd} {texts : List String}

/-- A connection takes its turns at the instant of its relay, in front of the sink. -/
theorem encounter?_of_turn {noticed : Bool} {dialing : Dialing} {breaks : String → Bool}
    (h : relay.encounter? surroundings place move = some (.turn now noticed dialing breaks)) :
    move.speaker? = some (.connection place) ∧ now = relay.now ∧
      breaks = fun line => (relay.refusal? surroundings.sink line).isSome := by
  unfold encounter? at h
  split at h
  · rename_i own
    rcases Option.bind_eq_some_iff.1 h with ⟨⟨connection, owner⟩, -, hbrings⟩
    cases move with
    | act action =>
        cases action with
        | accept index =>
            simp only [brings?] at hbrings
            split at hbrings <;> cases hbrings
        | connection index =>
            cases own
            cases hbrings
            exact ⟨rfl, rfl, rfl⟩
        | _ => cases hbrings
    | overlookEnd index =>
        cases own
        cases hbrings
        exact ⟨rfl, rfl, rfl⟩
    | _ => cases hbrings
  · cases h

/-- What a move does to a connection that copies a stream. -/
inductive Copies (sink : Sink) (before after : Relay σ) (place : Nat) (tunnel : Tunnel)
    (far : RemoteEnd) (since : Nat) : Prop
  | going {connection : Connection} {link : Link} (found : after.connections[place]? = some connection)
      (phase : connection.phase = .copying link) (stream : link.IsTo far since)
  | ending {connection : Connection} {texts : List String}
      (found : after.connections[place]? = some connection) (phase : connection.phase = .ended)
      (lines : after.lines = before.lines ++ texts.map fun text => (.connection place, text))
      (concluding : Connection.Concluding tunnel far since before.now
        (fun line => (before.refusal? sink line).isSome) texts)

theorem perform_of_copying (surroundings : Surroundings σ) (move : Move)
    (found : relay.connection? place = some (connection, owner))
    (remotePort : owner.remotePort = tunnel.remotePort) (phase : connection.phase = .copying link)
    (stream : link.IsTo far since) :
    Copies surroundings.sink relay (relay.perform surroundings move) place tunnel far since := by
  have hbrings := perform_meets relay surroundings move found
  cases hencounter : relay.encounter? surroundings place move with
  | none =>
      rw [hencounter] at hbrings
      exact .going hbrings.record phase stream
  | some encounter =>
      rw [hencounter, Connection.meetAny, Connection.meet_congr remotePort] at hbrings
      cases connection.meet_of_copying tunnel phase stream encounter with
      | going phase stream lines => exact .going hbrings.record phase stream
      | ending phase concluding =>
          rcases encounter?_of_turn hencounter with ⟨hspeaker, rfl, rfl⟩
          rcases perform_speaks relay surroundings move with ⟨hsilent, -⟩ | ⟨actor, hactor, hspeaks⟩
          · cases hsilent.symm.trans hspeaker
          · cases hactor.symm.trans hspeaker
            exact .ending hbrings.record phase (hspeaks.lines_of_said hbrings.lines) concluding

/-! ## Told reports -/

/-- What the sink has got of a connection whose copying is over. -/
inductive Concluded (sink : Sink) (relay : Relay σ) (place : Nat) (tunnel : Tunnel)
    (reports : List String) : Prop
  | whole (trouble : List String)
      (copying : ∀ line ∈ trouble, ∃ reason, line = tunnel.copyErrorLine reason)
      (said : relay.said (.connection place) = tunnel.handlingLine :: trouble ++ reports)
      (taken : ∀ reason, ¬ BrokeOn sink relay (.connection place) (tunnel.copyErrorLine reason))
  | brokenOff (reason : String)
      (said : relay.said (.connection place) = [tunnel.handlingLine, tunnel.copyErrorLine reason])
      (broke : BrokeOn sink relay (.connection place) (tunnel.copyErrorLine reason))

theorem Concluded.of_said_eq (h : Concluded sink before place tunnel texts)
    (lines : before.lines <+: after.lines)
    (same : after.said (.connection place) = before.said (.connection place)) :
    Concluded sink after place tunnel texts := by
  cases h with
  | whole trouble copying said taken =>
      exact .whole trouble copying (same.trans said) fun reason broke =>
        taken reason (broke.of_said_eq lines same)
  | brokenOff reason said broke => exact .brokenOff reason (same.trans said) (broke.mono lines)

/-- The line of a report is none about copying. -/
theorem copyErrorLine_not_mem_reportLines (reason : String) :
    tunnel.copyErrorLine reason ∉ Connection.reportLines tunnel far since now := by
  intro hmem
  simp only [Connection.reportLines, Option.mem_toList] at hmem
  rcases Option.map_eq_some_iff.1 hmem with ⟨message, -, heq⟩
  exact tunnel.streamErrorLine_ne_copyErrorLine message reason heq

theorem concluded_of_concluding
    (concluding : Connection.Concluding tunnel far since now
      (fun line => (before.refusal? sink line).isSome) texts)
    (first : before.said (.connection place) = [tunnel.handlingLine])
    (lines : after.lines = before.lines ++ texts.map fun text => (.connection place, text)) :
    Concluded sink after place tunnel (Connection.reportLines tunnel far since now) := by
  have hsaid : after.said (.connection place) = tunnel.handlingLine :: texts := by
    rw [said_of_spoken lines, first, List.singleton_append]
  have hbefore (reason : String) :
      ¬ BrokeOn sink before (.connection place) (tunnel.copyErrorLine reason) := by
    intro broke
    have hmem := broke.mem_said
    rw [first] at hmem
    exact tunnel.copyErrorLine_ne_handlingLine reason (List.mem_singleton.1 hmem)
  cases concluding with
  | told =>
      refine .whole [] (fun _ hmem => nomatch hmem) hsaid fun reason broke => ?_
      have hmem := broke.mem_said
      rw [hsaid] at hmem
      rcases List.mem_cons.1 hmem with heq | hreport
      · exact tunnel.copyErrorLine_ne_handlingLine reason heq
      · exact copyErrorLine_not_mem_reportLines reason hreport
  | troubled reason taken =>
      refine .whole [tunnel.copyErrorLine reason] (fun line hmem => ⟨reason, List.mem_singleton.1 hmem⟩)
        hsaid fun other broke => ?_
      rcases broke.split lines with hearlier | ⟨front, rear, hmore, hrefusal⟩
      · exact hbefore other hearlier
      · rw [List.map_cons] at hmore
        cases front with
        | nil =>
            -- The sink took this line.
            rw [List.nil_append, List.cons.injEq, Prod.mk.injEq] at hmore
            rw [List.append_nil, ← hmore.1.2] at hrefusal
            exact absurd (taken.symm.trans hrefusal) Bool.false_ne_true
        | cons earlier front =>
            rw [List.cons_append, List.cons.injEq] at hmore
            have hmem : (Actor.connection place, tunnel.copyErrorLine other) ∈
                (Connection.reportLines tunnel far since now).map fun text =>
                  (.connection place, text) := by
              rw [hmore.2]
              exact List.mem_append_right front List.mem_cons_self
            rcases List.mem_map.1 hmem with ⟨line, hline, heq⟩
            cases heq
            exact copyErrorLine_not_mem_reportLines other hline
  | brokenOff reason broke =>
      rcases Option.isSome_iff_exists.1 broke with ⟨panic, hrefusal⟩
      exact .brokenOff reason hsaid (.of_refusal? hrefusal lines)

/-- How often a report was told, by the instant at which the copying ended. -/
theorem Concluded.count
    (h : Concluded sink relay place tunnel (Connection.reportLines tunnel far since now)) :
    let said := relay.said (.connection place)
    let line := tunnel.streamErrorLine
    let broken := ∃ reason, BrokeOn sink relay (.connection place) (tunnel.copyErrorLine reason)
    (∀ offset text, far.report = some (.message offset text) →
      (since + offset ≤ now ∧ ¬ broken → said.count (line text) = 1) ∧
        (now < since + offset ∨ broken → line text ∉ said)) ∧
      ((∀ offset text, far.report ≠ some (.message offset text)) → ∀ text, line text ∉ said) := by
  intro said line broken
  cases h with
  | whole trouble copying lines taken =>
      have hsaid : said = tunnel.handlingLine :: trouble ++
          Connection.reportLines tunnel far since now := lines
      have hnot (text : String) : line text ∉ tunnel.handlingLine :: trouble := by
        intro hmem
        rcases List.mem_cons.1 hmem with heq | htrouble
        · exact tunnel.streamErrorLine_ne_handlingLine text heq
        · rcases copying _ htrouble with ⟨reason, heq⟩
          exact tunnel.streamErrorLine_ne_copyErrorLine text reason heq
      refine ⟨fun offset text report => ?_, fun report text => ?_⟩
      · rw [Connection.reportLines_of_message report] at hsaid
        refine ⟨fun delivered => ?_, fun late => ?_⟩
        · rw [hsaid, if_pos delivered.1, List.count_append, List.count_eq_zero_of_not_mem (hnot text)]
          simp [line]
        · rcases late with late | ⟨reason, broke⟩
          · rw [hsaid, if_neg (Nat.not_le_of_lt late), List.append_nil]
            exact hnot text
          · exact absurd broke (taken reason)
      · rw [hsaid, Connection.reportLines_of_no_message report, List.append_nil]
        exact hnot text
  | brokenOff reason lines broke =>
      have hbroken : broken := ⟨reason, broke⟩
      have hnot (text : String) : line text ∉ said := by
        intro hmem
        have hsaid : said = [tunnel.handlingLine, tunnel.copyErrorLine reason] := lines
        rw [hsaid] at hmem
        rcases List.mem_cons.1 hmem with heq | hlast
        · exact tunnel.streamErrorLine_ne_handlingLine text heq
        · exact tunnel.streamErrorLine_ne_copyErrorLine text reason (List.mem_singleton.1 hlast)
      exact ⟨fun offset text _ => ⟨fun delivered => absurd hbroken delivered.2, fun _ => hnot text⟩,
        fun _ => hnot⟩

/-! ## Runs -/

/-- A connection copies a stream. -/
def IsCopying (relay : Relay σ) (place : Nat) : Prop :=
  ∃ connection link, relay.connections[place]? = some connection ∧ connection.phase = .copying link

/-- In every run, a connection that copies has written its first line only. -/
theorem said_of_copying (surroundings : Surroundings σ) (reachable : Bool) (remote : σ)
    (moves : List Move)
    (found : ((idle reachable remote).run surroundings moves).connection? place =
      some (connection, tunnel)) (phase : connection.phase = .copying link) :
    ((idle reachable remote).run surroundings moves).said (.connection place) =
      [tunnel.handlingLine] := by
  rcases connection_of_encounters surroundings reachable remote moves found with
    ⟨hrecord, hlines, -⟩
  rw [hlines]
  refine Connection.lines_after tunnel rfl _ ?_
  rw [← hrecord, phase]
  rfl

/-- As long as a connection copies, its stream is the one that was opened. -/
theorem copying_run (surroundings : Surroundings σ) (wellformed : Wellformed relay)
    (found : relay.connection? place = some (connection, tunnel))
    (phase : connection.phase = .copying link) (stream : link.IsTo far since) (more : List Move) :
    ∃ later, (relay.run surroundings more).connections[place]? = some later ∧
      (later.phase = .ended ∨ ∃ link, later.phase = .copying link ∧ link.IsTo far since) := by
  refine run_induction (P := fun _ last => ∃ later, last.connections[place]? = some later ∧
    (later.phase = .ended ∨ ∃ link, later.phase = .copying link ∧ link.IsTo far since)) wellformed
    ⟨connection, (connection?_eq_some_iff.1 found).1, .inr ⟨link, phase, stream⟩⟩ ?_ more
  rintro more move before hwellformed hbefore ⟨earlier, hearlier, hended | ⟨link, hphase, hstream⟩⟩
  · have hextends : Extends before (before.perform surroundings move) :=
      run_extends hwellformed [move]
    rcases hextends.connections place earlier hearlier with ⟨later, hlater, hendures⟩
    exact ⟨later, hlater, .inl (hendures.ended hended)⟩
  · rcases connection?_of_getElem? hwellformed hearlier with ⟨owner, howner⟩
    have hextends : Extends relay before := hbefore ▸ run_extends wellformed more
    cases perform_of_copying surroundings move howner (hextends.owner_grows found howner).remotePort hphase
      hstream with
    | going hfound hphase hstream => exact ⟨_, hfound, .inr ⟨_, hphase, hstream⟩⟩
    | ending hfound hphase => exact ⟨_, hfound, .inl hphase⟩

theorem stream_of_copying (wellformed : Wellformed relay)
    (found : relay.connection? place = some (connection, tunnel))
    (opened : connection.phase = .copying (.opened far since)) {more : List Move}
    (next : (relay.run surroundings more).connections[place]? = some later)
    (phase : later.phase = .copying link) : link.IsTo far since := by
  rcases copying_run surroundings wellformed found opened (Link.isTo_opened far since) more with
    ⟨same, hsame, hcases⟩
  cases hsame.symm.trans next
  rcases hcases with hended | ⟨other, hother, hstream⟩
  · cases hended.symm.trans phase
  · cases hother.symm.trans phase
    exact hstream

/-- Once no step is possible, nothing is left to copy. -/
theorem copy_of_quiet (wellformed : Wellformed relay) (quiet : relay.nextTask? = none)
    (found : relay.connection? place = some (connection, tunnel))
    (phase : connection.phase = .copying link) :
    link.copy relay.now connection.client = (connection.client, link, .goesOn) := by
  rcases connection?_eq_some_iff.1 found with ⟨hplace, howner⟩
  have hresting := (nextTask?_eq_none_iff wellformed).1 quiet connection.tunnel tunnel howner
  have hdue := hresting.connections connection (List.mem_of_getElem? hplace) rfl
  simp only [connectionIsDue, phase] at hdue
  simpa [copyIsDue] using (Bool.or_eq_false_iff.1 hdue).2

/-- A connection that has ended says nothing more. -/
theorem said_of_ended (wellformed : Wellformed relay)
    (found : relay.connections[place]? = some connection) (phase : connection.phase = .ended)
    (rest : List Move) :
    (relay.run surroundings rest).said (.connection place) = relay.said (.connection place) := by
  refine run_induction (P := fun _ last => last.said (.connection place) =
    relay.said (.connection place)) wellformed rfl ?_ rest
  intro rest move before hwellformed hbefore ih
  have hextends : Extends relay before := hbefore ▸ run_extends wellformed rest
  rcases hextends.connections place connection found with ⟨earlier, hearlier, hendures⟩
  rcases connection?_of_getElem? hwellformed hearlier with ⟨owner, howner⟩
  have hbrings := perform_meets before surroundings move howner
  rw [hbrings.lines, ih]
  cases hencounter : before.encounter? surroundings place move with
  | none => exact List.append_nil _
  | some encounter =>
      have hsilent := (Connection.meet_of_ended owner (hendures.ended phase) encounter).2
      rw [Connection.meetAny, hsilent, List.append_nil]

/-! ## Reports -/

/-- In every run, whatever clients, the transport and the sink do, from the moment on in which the
stream of a connection is open. As long as the connection copies, it has written its first line only,
and once no step is possible, nothing is left to copy. The turn that ends the copying looks at the
failure report. A message that is there by then is written exactly once, whatever happens next, unless
the sink broke down on the line in front of it; a message that comes later is never written, and a
report without a message makes the connection write nothing. -/
theorem reports_are_told_as_copying_ends (surroundings : Surroundings σ) (reachable : Bool)
    (remote : σ) (moves : List Move) (place : Nat) (connection : Connection) (tunnel : Tunnel)
    (far : RemoteEnd) (since : Nat)
    (found : ((idle reachable remote).run surroundings moves).connection? place =
      some (connection, tunnel)) (opened : connection.phase = .copying (.opened far since))
    (more : List Move) :
    let relay := (idle reachable remote).run surroundings (moves ++ more)
    IsCopying relay place →
      relay.said (.connection place) = [tunnel.handlingLine] ∧
      (relay.nextTask? = none → ∃ later link, relay.connections[place]? = some later ∧
        later.phase = .copying link ∧
        link.copy relay.now later.client = (later.client, link, .goesOn)) ∧
      ∀ move, ¬ IsCopying (relay.perform surroundings move) place →
        ∀ rest, let last := (relay.perform surroundings move).run surroundings rest
          let said := last.said (.connection place)
          let line := tunnel.streamErrorLine
          let broken := ∃ reason,
            BrokeOn surroundings.sink last (.connection place) (tunnel.copyErrorLine reason)
          (∀ offset text, far.report = some (.message offset text) →
            (since + offset ≤ relay.now ∧ ¬ broken → said.count (line text) = 1) ∧
              (relay.now < since + offset ∨ broken → line text ∉ said)) ∧
            ((∀ offset text, far.report ≠ some (.message offset text)) →
              ∀ text, line text ∉ said) := by
  intro relay
  rintro ⟨later, link, hlater, hphase⟩
  have hopening := wellformed_run surroundings reachable remote moves
  have hwellformed : Wellformed relay := wellformed_run surroundings reachable remote (moves ++ more)
  have hrun : relay = ((idle reachable remote).run surroundings moves).run surroundings more :=
    run_append surroundings (idle reachable remote) moves more
  rcases connection?_of_getElem? hwellformed hlater with ⟨owner, howner⟩
  have hextends : Extends ((idle reachable remote).run surroundings moves) relay :=
    hrun ▸ run_extends hopening more
  have hport : owner.remotePort = tunnel.remotePort := (hextends.owner_grows found howner).remotePort
  have hstream : link.IsTo far since :=
    stream_of_copying hopening found opened (hrun ▸ hlater) hphase
  have hsaid : relay.said (.connection place) = [tunnel.handlingLine] := by
    rw [said_of_copying surroundings reachable remote (moves ++ more) howner hphase]
    unfold Tunnel.handlingLine
    rw [hport]
  refine ⟨hsaid, fun quiet =>
    ⟨later, link, hlater, hphase, copy_of_quiet hwellformed quiet howner hphase⟩,
    fun move stops rest => ?_⟩
  cases perform_of_copying surroundings move howner hport hphase hstream with
  | going hfound hcopying _ => exact absurd ⟨_, _, hfound, hcopying⟩ stops
  | ending hfound hended hlines hconcluding =>
      have hconcluded : Concluded surroundings.sink (relay.perform surroundings move) place tunnel
          (Connection.reportLines tunnel far since relay.now) :=
        concluded_of_concluding hconcluding hsaid hlines
      have hlast := hconcluded.of_said_eq (lines_run surroundings _ rest)
        (said_of_ended (hwellformed.perform move) hfound hended rest)
      exact hlast.count

/-- The first stream stays quiet. The others end at once, and their report comes after an offset. -/
def reportingAfter (offset : Nat) : Surroundings Nat :=
  ⟨⟨fun _ _ _ count =>
      (.after 0 (.connected (if count = 0 then .quiet none
        else ⟨[(0, .eof)], .leaves, 0, some (.message offset "lost connection to pod")⟩)) [],
        count + 1)⟩, .reliable⟩

/-- A tunnel is open, and a connection has opened its stream. -/
def oneStream : List Move :=
  [.act (.start .standard default 7233 (.choosing 49152)), .act (.worker 0), .act (.worker 0),
    .act (.worker 0), .act (.collect 0), .act (.connect 49152), .act (.accept 0),
    .act (.connection 0), .act (.connection 0)]

theorem prompt_report_is_told :
    let relay := (idle true 0).run (reportingAfter 0) (oneStream ++ [.act (.finish 0)])
    ((relay.perform (reportingAfter 0) (.act (.connection 0))).said (.connection 0)).count
      "error forwarding port 7233: lost connection to pod" = 1 := by
  intro relay
  rcases reports_are_told_as_copying_ends (reportingAfter 0) true 0 oneStream 0 _ _ _ _ rfl rfl
    [.act (.finish 0)] ⟨_, _, rfl, rfl⟩ with ⟨-, -, htold⟩
  have hstops : ¬ IsCopying (relay.perform (reportingAfter 0) (.act (.connection 0))) 0 := by
    rintro ⟨_, _, hfound, hphase⟩
    cases hfound
    cases hphase
  rcases (htold _ hstops []).1 0 "lost connection to pod" rfl with ⟨hcount, -⟩
  refine hcount ⟨Nat.le_refl 0, ?_⟩
  rintro ⟨_, _, _, -, hrefusal⟩
  cases hrefusal

/-- A report that comes after its stream has ended is lost, though the tunnel is open all the time. -/
theorem trailing_report_is_lost :
    let opening := (idle true 0).run (reportingAfter 50) oneStream
    let relay := opening.run (reportingAfter 50)
      [.act (.finish 0), .act (.connection 0), .wait 100]
    (∃ connection far, opening.connections[0]? = some connection ∧
        connection.phase = .copying (.opened far 0) ∧
        far.report = some (.message 50 "lost connection to pod")) ∧
      ∃ tunnel, relay.tunnels[0]? = some tunnel ∧ tunnel.owner = .holding ∧ tunnel.state = .ready ∧
        relay.now = 100 ∧
        ∀ rest, "error forwarding port 7233: lost connection to pod" ∉
          (relay.run (reportingAfter 50) rest).said (.connection 0) := by
  intro opening relay
  refine ⟨⟨_, _, rfl, rfl, rfl⟩, _, rfl, rfl, rfl, rfl, fun rest => ?_⟩
  have hwellformed : Wellformed relay := by
    have hrun := wellformed_run (reportingAfter 50) true 0
      (oneStream ++ [.act (.finish 0), .act (.connection 0), .wait 100])
    rwa [run_append] at hrun
  rw [said_of_ended hwellformed rfl rfl rest]
  decide

end Relay

end Readiness
