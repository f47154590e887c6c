import Mathlib.Data.List.Induction
import Readiness.Tunnel.Relay

/-!
# Encounters — what a connection makes of what it meets

A connection meets its client, the worker that accepts it, and in its own turns the clock, the end of
its tunnel, the transport and the sink. It meets nothing else.

* `Encounter` lists these, and `Connection.meet` is what comes of an encounter: the next record of the
  connection, the lines that it writes and the instant of a dial;
* `Connection.after` is what comes of encounters, one after the other;
* `Connection.Dialed` ties the dials of a connection to how far it is, and `Connection.dialed_after`:
  a connection that was accepted dials in its next turn or never, and never again.
-/

namespace Readiness

/-! ## Connections on their own -/

/-- What a connection meets. -/
inductive Encounter where
  | accepted
  | sent (bytes : Bytes)
  | finished
  | took (count : Nat)
  -- Its own turn: the instant, whether it notices that its tunnel has ended, what becomes of a dial, and
  -- whether the sink breaks down on a line.
  | turn (now : Nat) (noticed : Bool) (dialing : Dialing) (breaks : String → Bool)

/-- A turn in which an accepted connection does not dial: it notices that its tunnel has ended, or the
sink breaks down on its first line. -/
def Encounter.withholds (tunnel : Tunnel) : Encounter → Bool
  | .turn _ noticed _ breaks => noticed || breaks tunnel.handlingLine
  | _ => false

/-- What comes of an encounter: the record, the lines, and the instants of dials. -/
structure Meeting where
  next : Connection
  lines : List String
  dials : List Nat

namespace Connection

/-- Nothing is written and nothing is dialed. -/
def becomes (next : Connection) : Meeting := ⟨next, [], []⟩

def openStream (tunnel : Tunnel) (now : Nat) (noticed : Bool) (dialing : Dialing)
    (breaks : String → Bool) (connection : Connection) : Meeting :=
  if breaks tunnel.handlingLine || noticed then ⟨connection.close, [tunnel.handlingLine], []⟩
  else ⟨{ connection with phase := .dialing now dialing }, [tunnel.handlingLine], [now]⟩

def streamOpened (tunnel : Tunnel) (now : Nat) (connection : Connection) : DialEnd → Meeting
  | .connected remote => becomes { connection with phase := .copying (.opened remote now) }
  | .refused error => ⟨connection.close, [tunnel.streamErrorLine error.message], []⟩
  | .panicked _ => becomes connection.close

def endStream (tunnel : Tunnel) (now : Nat) (link : Link) (connection : Connection) : Meeting :=
  ⟨connection.close, ((link.reported? now).map tunnel.streamErrorLine).toList, []⟩

def copyStream (tunnel : Tunnel) (now : Nat) (noticed : Bool) (breaks : String → Bool) (link : Link)
    (connection : Connection) : Meeting :=
  if noticed then connection.endStream tunnel now link
  else
    match link.copy now connection.client with
    | (client, link, copied) =>
        let moved := { connection with client := client, phase := .copying link }
        match copied with
        | .goesOn => becomes moved
        | .done => moved.endStream tunnel now link
        | .broken reason =>
            let line := tunnel.copyErrorLine reason
            if breaks line then ⟨moved.close, [line], []⟩
            else
              let ended := moved.endStream tunnel now link
              ⟨ended.next, line :: ended.lines, []⟩

/-- The turn of a connection of a tunnel. -/
def turn (tunnel : Tunnel) (now : Nat) (noticed : Bool) (dialing : Dialing) (breaks : String → Bool)
    (connection : Connection) : Meeting :=
  match connection.phase with
  | .waiting => becomes (if noticed then connection.close else connection)
  | .accepted => connection.openStream tunnel now noticed dialing breaks
  | .dialing since dialing =>
      if noticed then becomes connection.close
      else
        match dialing with
        | .never => becomes connection
        | .after delay outcome _ =>
            if now < since + delay then becomes connection
            else connection.streamOpened tunnel now outcome
  | .copying link => connection.copyStream tunnel now noticed breaks link
  | .ended => becomes connection

/-- What an encounter makes of a connection of a tunnel. -/
def meet (tunnel : Tunnel) (connection : Connection) : Encounter → Meeting
  | .accepted =>
      becomes (if connection.phase = .waiting then { connection with phase := .accepted }
        else connection)
  | .sent bytes => becomes { connection with client := connection.client.send bytes }
  | .finished => becomes { connection with client := connection.client.finish }
  | .took count => becomes { connection with client := (connection.client.take count).2 }
  | .turn now noticed dialing breaks => connection.turn tunnel now noticed dialing breaks

/-- What comes of an encounter, if there is one. -/
def meetAny (tunnel : Tunnel) (connection : Connection) : Option Encounter → Meeting
  | some encounter => connection.meet tunnel encounter
  | none => connection.becomes

/-- What comes of encounters, one after the other. -/
def after (tunnel : Tunnel) (connection : Connection) (encounters : List Encounter) : Meeting :=
  encounters.foldl
    (fun meeting encounter =>
      let next := meeting.next.meet tunnel encounter
      ⟨next.next, meeting.lines ++ next.lines, meeting.dials ++ next.dials⟩)
    (becomes connection)

theorem after_concat (tunnel : Tunnel) (connection : Connection) (encounters : List Encounter)
    (encounter : Encounter) :
    connection.after tunnel (encounters ++ [encounter]) =
      let before := connection.after tunnel encounters
      let next := before.next.meet tunnel encounter
      ⟨next.next, before.lines ++ next.lines, before.dials ++ next.dials⟩ := by
  simp only [after, List.foldl_append, List.foldl_cons, List.foldl_nil]

theorem after_append (tunnel : Tunnel) (connection : Connection) (encounters : List Encounter)
    (encounter : Option Encounter) :
    connection.after tunnel (encounters ++ encounter.toList) =
      let before := connection.after tunnel encounters
      let next := before.next.meetAny tunnel encounter
      ⟨next.next, before.lines ++ next.lines, before.dials ++ next.dials⟩ := by
  cases encounter with
  | none => simp only [Option.toList_none, List.append_nil, meetAny, becomes]
  | some encounter => exact after_concat tunnel connection encounters encounter

/-- Of its tunnel, a connection knows the remote port. -/
theorem meet_congr {tunnel other : Tunnel} (same : tunnel.remotePort = other.remotePort)
    (connection : Connection) (encounter : Encounter) :
    connection.meet tunnel encounter = connection.meet other encounter := by
  have hhandling : tunnel.handlingLine = other.handlingLine := by
    unfold Tunnel.handlingLine
    rw [same]
  have hstream : tunnel.streamErrorLine = other.streamErrorLine := by
    funext reason
    unfold Tunnel.streamErrorLine
    rw [same]
  have hcopy : tunnel.copyErrorLine = other.copyErrorLine := by
    funext reason
    unfold Tunnel.copyErrorLine
    rw [same]
  have hopened (now : Nat) (outcome : DialEnd) :
      connection.streamOpened tunnel now outcome = connection.streamOpened other now outcome := by
    cases outcome <;> simp only [streamOpened, hstream]
  cases encounter with
  | turn now noticed dialing breaks =>
      simp only [meet, turn, openStream, copyStream, endStream, hopened, hhandling, hstream, hcopy]
  | _ => rfl

theorem after_congr {tunnel other : Tunnel} (same : tunnel.remotePort = other.remotePort)
    (connection : Connection) (encounters : List Encounter) :
    connection.after tunnel encounters = connection.after other encounters := by
  simp only [after, meet_congr same]

/-! ## Dials -/

section Dials

variable {tunnel : Tunnel} {connection : Connection} {encounters : List Encounter}
  {encounter : Encounter}

/-- Neither waiting to be accepted nor in front of the first turn. -/
def IsUnderWay (connection : Connection) : Prop :=
  connection.phase ≠ .waiting ∧ connection.phase ≠ .accepted

theorem isUnderWay_of_phase {phase : ConnectionPhase} (h : connection.phase = phase)
    (waiting : phase ≠ .waiting) (accepted : phase ≠ .accepted) : connection.IsUnderWay :=
  ⟨fun heq => waiting (h.symm.trans heq), fun heq => accepted (h.symm.trans heq)⟩

theorem isUnderWay_close (connection : Connection) : connection.close.IsUnderWay :=
  ⟨nofun, nofun⟩

theorem meet_of_waiting (tunnel : Tunnel) (encounter : Encounter)
    (phase : connection.phase = .waiting) :
    (connection.meet tunnel encounter).dials = [] ∧
      ((connection.meet tunnel encounter).next.phase = .waiting ∨
        (connection.meet tunnel encounter).next.phase = .accepted ∨
        (connection.meet tunnel encounter).next.phase = .ended) := by
  cases encounter with
  | accepted => exact ⟨rfl, .inr (.inl (by simp [meet, becomes, phase]))⟩
  | sent bytes => exact ⟨rfl, .inl phase⟩
  | finished => exact ⟨rfl, .inl phase⟩
  | took count => exact ⟨rfl, .inl phase⟩
  | turn now noticed dialing breaks =>
      cases noticed with
      | true =>
          simp only [meet, turn, phase, becomes, if_true]
          exact ⟨trivial, .inr (.inr rfl)⟩
      | false =>
          simp only [meet, turn, phase, becomes, Bool.false_eq_true, if_false]
          exact ⟨trivial, .inl trivial⟩

/-- An accepted connection dials in its first turn, or never. -/
theorem meet_of_accepted (tunnel : Tunnel) (encounter : Encounter)
    (phase : connection.phase = .accepted) :
    (connection.meet tunnel encounter).dials = [] ∧
        (connection.meet tunnel encounter).next.phase = .accepted ∨
      (connection.meet tunnel encounter).next.IsUnderWay ∧
        (encounter.withholds tunnel = true ∧ (connection.meet tunnel encounter).dials = [] ∨
          ∃ instant, (connection.meet tunnel encounter).dials = [instant]) := by
  cases encounter with
  | accepted => exact .inl ⟨rfl, by simp [meet, becomes, phase]⟩
  | sent bytes => exact .inl ⟨rfl, phase⟩
  | finished => exact .inl ⟨rfl, phase⟩
  | took count => exact .inl ⟨rfl, phase⟩
  | turn now noticed dialing breaks =>
      refine .inr ?_
      simp only [meet, turn, phase, openStream]
      split
      · rename_i withheld
        rw [Bool.or_comm] at withheld
        exact ⟨isUnderWay_close connection, .inl ⟨withheld, rfl⟩⟩
      · exact ⟨isUnderWay_of_phase rfl nofun nofun, .inr ⟨now, rfl⟩⟩

/-- A connection that is under way dials no more. -/
theorem meet_of_isUnderWay (tunnel : Tunnel) (encounter : Encounter) (h : connection.IsUnderWay) :
    (connection.meet tunnel encounter).dials = [] ∧
      (connection.meet tunnel encounter).next.IsUnderWay := by
  have ended (connection : Connection) (now : Nat) (link : Link) :
      (connection.endStream tunnel now link).dials = [] ∧
        (connection.endStream tunnel now link).next.IsUnderWay :=
    ⟨rfl, isUnderWay_close connection⟩
  cases encounter with
  | accepted =>
      refine ⟨rfl, ?_⟩
      simp only [meet, becomes, h.1, if_false]
      exact h
  | sent bytes => exact ⟨rfl, h⟩
  | finished => exact ⟨rfl, h⟩
  | took count => exact ⟨rfl, h⟩
  | turn now noticed dialing breaks =>
      simp only [meet, turn]
      split
      · rename_i waiting
        exact absurd waiting h.1
      · rename_i accepted
        exact absurd accepted h.2
      · split
        · exact ⟨rfl, isUnderWay_close connection⟩
        · split
          · exact ⟨rfl, h⟩
          · split
            · exact ⟨rfl, h⟩
            · rename_i outcome _ _ _
              cases outcome with
              | connected remote => exact ⟨rfl, isUnderWay_of_phase rfl nofun nofun⟩
              | refused error => exact ⟨rfl, isUnderWay_close connection⟩
              | panicked reason => exact ⟨rfl, isUnderWay_close connection⟩
      · simp only [copyStream]
        split
        · exact ended connection now _
        · split
          · exact ⟨rfl, isUnderWay_of_phase rfl nofun nofun⟩
          · exact ended _ now _
          · split
            · exact ⟨rfl, isUnderWay_close _⟩
            · exact ⟨rfl, isUnderWay_close _⟩
      · exact ⟨rfl, h⟩

/-- The first turn of an accepted connection was one in which it does not dial. -/
def Withheld (tunnel : Tunnel) (connection : Connection) (encounters : List Encounter) : Prop :=
  ∃ earlier encounter later, encounters = earlier ++ encounter :: later ∧
    (connection.after tunnel earlier).next.phase = .accepted ∧ encounter.withholds tunnel = true

/-- The worker of its tunnel has accepted a connection. -/
def WasAccepted (tunnel : Tunnel) (connection : Connection) (encounters : List Encounter) : Prop :=
  ∃ earlier, earlier <+: encounters ∧ (connection.after tunnel earlier).next.phase = .accepted

/-- Whether a connection has dialed, by how far it is. -/
inductive Dialed (tunnel : Tunnel) (connection : Connection) (encounters : List Encounter) : Prop
  | waiting (phase : (connection.after tunnel encounters).next.phase = .waiting)
      (dials : (connection.after tunnel encounters).dials = [])
      (never : ¬ WasAccepted tunnel connection encounters)
  | accepted (phase : (connection.after tunnel encounters).next.phase = .accepted)
      (dials : (connection.after tunnel encounters).dials = [])
  | once (phase : (connection.after tunnel encounters).next.IsUnderWay) (instant : Nat)
      (dials : (connection.after tunnel encounters).dials = [instant])
  | spared (phase : (connection.after tunnel encounters).next.IsUnderWay)
      (dials : (connection.after tunnel encounters).dials = [])
      (why : ¬ WasAccepted tunnel connection encounters ∨ Withheld tunnel connection encounters)

theorem Withheld.concat (h : Withheld tunnel connection encounters) (encounter : Encounter) :
    Withheld tunnel connection (encounters ++ [encounter]) := by
  rcases h with ⟨earlier, withholding, later, rfl, rest⟩
  refine ⟨earlier, withholding, later ++ [encounter], ?_, rest⟩
  rw [List.append_assoc, List.cons_append]

theorem not_wasAccepted_concat (h : ¬ WasAccepted tunnel connection encounters)
    (last : (connection.after tunnel (encounters ++ [encounter])).next.phase ≠ .accepted) :
    ¬ WasAccepted tunnel connection (encounters ++ [encounter]) := by
  rintro ⟨earlier, hprefix, accepted⟩
  rcases List.prefix_concat_iff.1 hprefix with rfl | hbefore
  · exact last accepted
  · exact h ⟨earlier, hbefore, accepted⟩

theorem Dialed.concat (h : Dialed tunnel connection encounters) (encounter : Encounter) :
    Dialed tunnel connection (encounters ++ [encounter]) := by
  have hnext : (connection.after tunnel (encounters ++ [encounter])).next =
      ((connection.after tunnel encounters).next.meet tunnel encounter).next := by
    rw [after_concat]
  have hdials : (connection.after tunnel (encounters ++ [encounter])).dials =
      (connection.after tunnel encounters).dials ++
        ((connection.after tunnel encounters).next.meet tunnel encounter).dials := by
    rw [after_concat]
  cases h with
  | waiting phase dials never =>
      rcases meet_of_waiting tunnel encounter phase with ⟨hnone, hphase⟩
      rw [dials, hnone, List.append_nil] at hdials
      rw [← hnext] at hphase
      rcases hphase with hwaiting | haccepted | hended
      · exact .waiting hwaiting hdials (not_wasAccepted_concat never (by rw [hwaiting]; exact nofun))
      · exact .accepted haccepted hdials
      · exact .spared (isUnderWay_of_phase hended nofun nofun) hdials
          (.inl (not_wasAccepted_concat never (by rw [hended]; exact nofun)))
  | accepted phase dials =>
      rcases meet_of_accepted tunnel encounter phase with
        ⟨hnone, haccepted⟩ | ⟨underWay, ⟨withholds, hnone⟩ | ⟨instant, hdialed⟩⟩
      · rw [dials, hnone, List.append_nil] at hdials
        exact .accepted (hnext ▸ haccepted) hdials
      · rw [dials, hnone, List.append_nil] at hdials
        exact .spared (hnext ▸ underWay) hdials
          (.inr ⟨encounters, encounter, [], rfl, phase, withholds⟩)
      · rw [dials, hdialed, List.nil_append] at hdials
        exact .once (hnext ▸ underWay) instant hdials
  | once phase instant dials =>
      rcases meet_of_isUnderWay tunnel encounter phase with ⟨hnone, underWay⟩
      rw [dials, hnone, List.append_nil] at hdials
      exact .once (hnext ▸ underWay) instant hdials
  | spared phase dials why =>
      rcases meet_of_isUnderWay tunnel encounter phase with ⟨hnone, underWay⟩
      rw [dials, hnone, List.append_nil] at hdials
      rw [← hnext] at underWay
      exact .spared underWay hdials
        (why.imp (fun never => not_wasAccepted_concat never underWay.2) (·.concat encounter))

end Dials

end Connection

end Readiness
