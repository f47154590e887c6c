import Readiness.Proofs.Tunnel.Encounters
import Readiness.Proofs.Tunnel.Lines
import Readiness.Proofs.Tunnel.Stages

/-!
# Traces — what moves bring to connections

* `Relay.encounter?` is what a move brings to a connection, and `Relay.encounters` what a run brings;
* `Relay.perform_spares`: a move leaves all connections alone but its own;
* `Relay.perform_meets`: what a move does to a connection is what comes of the encounter;
* `Relay.traced_run`: after every run, a connection is what it made of its encounters, and so are its
  lines and its dials.
-/

namespace Readiness

namespace Relay

variable {σ : Type} {surroundings : Surroundings σ} {relay before after : Relay σ} {move : Move}
  {index place : Nat} {connection : Connection} {tunnel : Tunnel}

/-! ## What moves bring -/

/-- The connection that a move is made by or for. -/
def Move.connection? (relay : Relay σ) : Move → Option Nat
  | .act (.accept tunnel) => relay.connections.findIdx? (awaits tunnel)
  | .act (.connection index) | .act (.send index _) | .act (.finish index) | .act (.take index _)
  | .overlookEnd index => some index
  | _ => none

/-- What a connection meets in its own turn. -/
def turnFor (relay : Relay σ) (surroundings : Surroundings σ) (tunnel : Tunnel) (noticed : Bool) :
    Encounter :=
  .turn relay.now noticed
    (surroundings.transport.dial relay.now tunnel.endpoint tunnel.remotePort relay.remote).1
    fun line => (relay.refusal? surroundings.sink line).isSome

/-- What a move brings to its connection, which belongs to a tunnel. -/
def brings? (relay : Relay σ) (surroundings : Surroundings σ) (tunnel : Tunnel) :
    Move → Option Encounter
  | .act (.accept _) => if tunnel.phase = .forwarding then some .accepted else none
  | .act (.send _ bytes) => some (.sent bytes)
  | .act (.finish _) => some .finished
  | .act (.take _ count) => some (.took count)
  | .act (.connection _) => some (relay.turnFor surroundings tunnel tunnel.isOver)
  | .overlookEnd _ => some (relay.turnFor surroundings tunnel false)
  | _ => none

/-- What a move brings to the connection in a place. -/
def encounter? (relay : Relay σ) (surroundings : Surroundings σ) (place : Nat) (move : Move) :
    Option Encounter :=
  if move.connection? relay = some place then
    (relay.connection? place).bind fun pair => relay.brings? surroundings pair.2 move
  else none

/-- The attempts of a connection to open a stream. -/
def dialsBy (relay : Relay σ) (place : Nat) : List (Nat × Actor × Endpoint × Nat) :=
  relay.dials.filter fun dial => dial.2.1 = .connection place

/-! ## Moves for others -/

/-- A connection is as it was, and has not dialed. -/
structure Spares (before after : Relay σ) (place : Nat) : Prop where
  record : ∀ connection, before.connections[place]? = some connection →
    after.connections[place]? = some connection
  dials : after.dialsBy place = before.dialsBy place

theorem Spares.refl (relay : Relay σ) (place : Nat) : Spares relay relay place :=
  ⟨fun _ found => found, rfl⟩

theorem dialsBy_of_dials (same : after.dials = before.dials) :
    after.dialsBy place = before.dialsBy place := by
  rw [dialsBy, same]
  rfl

theorem dialsBy_of_dial {dial : Nat × Actor × Endpoint × Nat}
    (dialed : after.dials = before.dials ++ [dial]) (another : dial.2.1 ≠ .connection place) :
    after.dialsBy place = before.dialsBy place := by
  simp [dialsBy, dialed, another]

theorem Spares.of_eq (connections : after.connections = before.connections)
    (dials : after.dials = before.dials) : Spares before after place :=
  ⟨fun _ found => connections ▸ found, dialsBy_of_dials dials⟩

theorem TunnelChange.spares (change : TunnelChange surroundings move before after index tunnel) :
    Spares before after place := by
  cases change with
  | probed phase own dialing dialed offset verdict events outcome core =>
      have hconnections : after.connections = before.connections := congrArg Core.connections core
      exact ⟨fun _ found => hconnections ▸ found,
        dialsBy_of_dial (congrArg Core.dials core) (by simp)⟩
  | turned next turn core =>
      exact .of_eq (congrArg Core.connections core) (congrArg Core.dials core)
  | ended states word how ending core =>
      exact .of_eq (congrArg Core.connections core) (congrArg Core.dials core)

theorem ConnectionChange.spares
    (change : ConnectionChange surroundings move before after index connection tunnel)
    (another : index ≠ place) : Spares before after place := by
  have hset (next : Connection) (connections : after.connections = before.connections.set index next) :
      ∀ connection, before.connections[place]? = some connection →
        after.connections[place]? = some connection := by
    intro connection found
    rw [connections, List.getElem?_set_ne another, found]
  cases change with
  | dialed phase dialing dialed core =>
      exact ⟨hset _ (congrArg Core.connections core),
        dialsBy_of_dial (congrArg Core.dials core) (by simpa using another)⟩
  | advanced next turn core =>
      exact ⟨hset _ (congrArg Core.connections core), dialsBy_of_dials (congrArg Core.dials core)⟩

theorem goOn_spares (surroundings : Surroundings σ) (noticed : Bool)
    (found : relay.connection? index = some (connection, tunnel))
    (ceased : noticed = true → tunnel.isOver = true) (another : index ≠ place) :
    Spares relay (relay.goOn surroundings index connection tunnel noticed) place := by
  rcases goOn_cases surroundings (.overlookEnd index) noticed (connection?_eq_some_iff.1 found).1
    ceased with hsame | hchange
  · rw [hsame]
    exact .refl relay place
  · exact hchange.spares another

theorem updateConnection_spares (f : Connection → Connection) (another : index ≠ place) :
    Spares relay (relay.updateConnection index f) place :=
  ⟨fun _ found => (List.getElem?_modify_ne f relay.connections another).trans found, rfl⟩

theorem updateClient_spares (f : Client → Client) (another : index ≠ place) :
    Spares relay (relay.updateClient index f) place :=
  updateConnection_spares _ another

theorem accept_spares (another : relay.connections.findIdx? (awaits index) ≠ some place) :
    Spares relay (relay.accept index) place := by
  unfold accept
  split
  · rename_i tunnel first _ hfirst
    split
    · have hne : first ≠ place := by
        rintro rfl
        exact another hfirst
      have hspares : Spares (relay.note [acceptedEvent tunnel first]) _ place :=
        updateConnection_spares (fun connection => { connection with phase := .accepted }) hne
      exact ⟨hspares.record, hspares.dials⟩
    · exact .refl relay place
  · exact .refl relay place

theorem runWorker_spares (surroundings : Surroundings σ) (relay : Relay σ) (index place : Nat) :
    Spares relay (relay.runWorker surroundings index) place := by
  cases found : relay.tunnels[index]? with
  | none =>
      simp only [runWorker, found]
      exact .refl relay place
  | some tunnel =>
      cases due : workerIsDue relay.now tunnel with
      | true => exact (runWorker_of_due surroundings found due).spares
      | false =>
          rw [runWorker_of_not_due surroundings found due]
          exact .refl relay place

theorem afterBind_spares (relay : Relay σ) (requested : Option Nat) (unnamed : Option String)
    (bound : Except Error Grant × Ports) (purpose : Purpose) (place : Nat) :
    Spares relay (relay.afterBind requested unnamed bound purpose) place := by
  rcases afterBind_frame relay requested unnamed bound purpose with
    ⟨-, -, hdials, -, hconnections⟩
  exact .of_eq hconnections hdials

/-- A move leaves a connection alone that it is not made by or for. -/
theorem perform_spares (relay : Relay σ) (surroundings : Surroundings σ)
    (another : move.connection? relay ≠ some place) :
    Spares relay (relay.perform surroundings move) place := by
  have hne {index : Nat} (other : some index ≠ some place) : index ≠ place :=
    fun heq => other (congrArg some heq)
  cases move with
  | act action =>
      cases action with
      | worker tunnel => exact runWorker_spares surroundings relay tunnel place
      | accept tunnel => exact accept_spares another
      | connection index =>
          simp only [perform, step, runConnection]
          split
          · rename_i found
            exact goOn_spares surroundings _ found id (hne another)
          · exact .refl relay place
      | send index bytes => exact updateClient_spares (·.send bytes) (hne another)
      | finish index => exact updateClient_spares _ (hne another)
      | take index count => exact updateClient_spares (fun client => (client.take count).2) (hne another)
      | connect port =>
          simp only [perform, step, connect]
          split
          · split
            · refine ⟨fun connection found => ?_, rfl⟩
              rw [List.getElem?_append_left (List.getElem?_eq_some_iff.1 found).1, found]
            · exact .refl relay place
          · exact .refl relay place
      | start options endpoint remotePort host =>
          simp only [perform, step, start]
          exact afterBind_spares relay _ _ _ _ place
      | bind requested host =>
          simp only [perform, step, bind]
          exact afterBind_spares relay _ _ _ _ place
      | _ =>
          simp only [perform, step, abandon, close, drop, dropListener, dropLease, collect, join]
          repeat' split
          all_goals exact .of_eq rfl rfl
  | overlookEnd index =>
      simp only [perform, overlookEnd]
      split
      · rename_i found
        exact goOn_spares surroundings _ found (absurd · Bool.false_ne_true) (hne another)
      · exact .refl relay place
  | failAccept tunnel reason =>
      simp only [perform, failAccept, breakOff, halt]
      repeat' split
      all_goals exact .of_eq rfl rfl
  | answerFixed ticket host purpose =>
      simp only [perform, answerFixed]
      split
      · exact .refl relay place
      · exact afterBind_spares relay _ _ _ _ place
  | answerFree host purpose => exact afterBind_spares relay _ _ _ _ place
  | _ =>
      simp only [perform, cancel, leaveClosing]
      repeat' split
      all_goals exact .of_eq rfl rfl

/-- A connection speaks in its own moves. -/
theorem silent_of_another (another : move.connection? relay ≠ some place) :
    move.speaker? ≠ some (.connection place) := by
  intro speaks
  cases move with
  | act action =>
      cases action with
      | connection index =>
          cases speaks
          exact another rfl
      | _ => cases speaks
  | overlookEnd index =>
      cases speaks
      exact another rfl
  | _ => cases speaks

/-! ## Moves of a connection -/

/-- What came of an encounter shows in the record, the lines and the dials of a connection. -/
structure Brings (before after : Relay σ) (place : Nat) (tunnel : Tunnel) (meeting : Meeting) :
    Prop where
  record : after.connections[place]? = some meeting.next
  lines : after.said (.connection place) = before.said (.connection place) ++ meeting.lines
  dials : after.dialsBy place = before.dialsBy place ++ meeting.dials.map fun instant =>
    (instant, .connection place, tunnel.endpoint, tunnel.remotePort)

section Brings

variable {line : String} {meeting : Meeting}

theorem getElem?_of_modify (f : Connection → Connection)
    (found : before.connections[place]? = some connection)
    (connections : after.connections = before.connections.modify place f) :
    after.connections[place]? = some (f connection) := by
  rw [connections, List.getElem?_modify_eq, found]
  rfl

theorem brings_of_update (f : Connection → Connection)
    (found : before.connections[place]? = some connection)
    (connections : after.connections = before.connections.modify place f)
    (lines : after.lines = before.lines) (dials : after.dials = before.dials) :
    Brings before after place tunnel (f connection).becomes where
  record := getElem?_of_modify f found connections
  lines := (said_of_lines lines).trans (List.append_nil _).symm
  dials := (dialsBy_of_dials dials).trans (List.append_nil _).symm

theorem brings_of_write (f : Connection → Connection)
    (found : before.connections[place]? = some connection)
    (connections : after.connections = before.connections.modify place f)
    (lines : after.lines = (before.write (.connection place) line).lines)
    (dials : after.dials = before.dials) :
    Brings before after place tunnel ⟨f connection, [line], []⟩ where
  record := getElem?_of_modify f found connections
  lines := said_of_write lines
  dials := (dialsBy_of_dials dials).trans (List.append_nil _).symm

theorem brings_of_eq (found : relay.connections[place]? = some connection) :
    Brings relay relay place tunnel connection.becomes :=
  ⟨found, (List.append_nil _).symm, (List.append_nil _).symm⟩

/-- Nothing was written or dialed in front of what an encounter brings. -/
theorem Brings.of_silent {middle : Relay σ} (h : Brings middle after place tunnel meeting)
    (lines : middle.lines = before.lines) (dials : middle.dials = before.dials) :
    Brings before after place tunnel meeting where
  record := h.record
  lines := by rw [h.lines, said_of_lines lines]
  dials := by rw [h.dials, dialsBy_of_dials dials]

/-- A line was written in front of what an encounter brings. -/
theorem Brings.of_written {middle : Relay σ} (h : Brings middle after place tunnel meeting)
    (lines : middle.lines = (before.write (.connection place) line).lines)
    (dials : middle.dials = before.dials) :
    Brings before after place tunnel ⟨meeting.next, line :: meeting.lines, meeting.dials⟩ where
  record := h.record
  lines := by rw [h.lines, said_of_write lines, List.append_assoc, List.singleton_append]
  dials := by rw [h.dials, dialsBy_of_dials dials]

theorem openStream_brings (surroundings : Surroundings σ) (noticed : Bool)
    (found : relay.connections[place]? = some connection) :
    Brings relay (relay.openStream surroundings place tunnel noticed) place tunnel
      (connection.openStream tunnel relay.now noticed
        (surroundings.transport.dial relay.now tunnel.endpoint tunnel.remotePort relay.remote).1
        fun line => (relay.refusal? surroundings.sink line).isSome) := by
  cases hrefusal : relay.refusal? surroundings.sink tunnel.handlingLine with
  | some reason =>
      simp only [openStream, Connection.openStream, hrefusal, Option.isSome_some, Bool.true_or,
        if_true]
      exact brings_of_write Connection.close found rfl rfl rfl
  | none =>
      cases noticed with
      | true =>
          simp only [openStream, Connection.openStream, hrefusal, Bool.or_true, if_true]
          exact brings_of_write Connection.close found rfl rfl rfl
      | false =>
          simp only [openStream, Connection.openStream, hrefusal, Option.isSome_none, Bool.or_false,
            Bool.false_eq_true, if_false]
          refine ⟨getElem?_of_modify (fun connection =>
            { connection with phase := .dialing relay.now _ }) found rfl, said_of_write rfl, ?_⟩
          simp [dialsBy, dial, write, updateConnection]

theorem streamOpened_brings (outcome : DialEnd)
    (found : relay.connections[place]? = some connection) :
    Brings relay (relay.streamOpened place tunnel outcome) place tunnel
      (connection.streamOpened tunnel relay.now outcome) := by
  cases outcome with
  | connected remote =>
      exact brings_of_update (fun connection =>
        { connection with phase := .copying (.opened remote relay.now) }) found rfl rfl rfl
  | refused error => exact brings_of_write Connection.close found rfl rfl rfl
  | panicked reason => exact brings_of_update Connection.close found rfl rfl rfl

theorem endStream_brings (tunnel : Tunnel) (link : Link)
    (found : relay.connections[place]? = some connection) :
    Brings relay (relay.endStream place tunnel link) place tunnel
      (connection.endStream tunnel relay.now link) := by
  cases hreported : link.reported? relay.now with
  | none =>
      simp only [endStream, Connection.endStream, hreported]
      exact brings_of_update Connection.close found rfl rfl rfl
  | some message =>
      simp only [endStream, Connection.endStream, hreported]
      exact brings_of_write Connection.close found rfl rfl rfl

theorem copyStream_brings (sink : Sink) (link : Link) (noticed : Bool)
    (found : relay.connections[place]? = some connection) :
    Brings relay (relay.copyStream sink place tunnel connection.client link noticed) place tunnel
      (connection.copyStream tunnel relay.now noticed
        (fun line => (relay.refusal? sink line).isSome) link) := by
  cases noticed with
  | true =>
      simp only [copyStream, Connection.copyStream, if_true]
      exact endStream_brings tunnel link found
  | false =>
      cases hcopy : link.copy relay.now connection.client with
      | mk client rest =>
          rcases rest with ⟨after, copied⟩
          -- The bytes are moved first, whatever follows.
          let f : Connection → Connection := fun connection =>
            { connection with client := client, phase := .copying after }
          have hmoved : (relay.updateConnection place f).connections[place]? = some (f connection) :=
            getElem?_of_modify f found rfl
          simp only [copyStream, Connection.copyStream, hcopy, Bool.false_eq_true, if_false]
          cases copied with
          | goesOn => exact brings_of_update f found rfl rfl rfl
          | done => exact (endStream_brings tunnel after hmoved).of_silent rfl rfl
          | broken reason =>
              have hwritten : ((relay.updateConnection place f).write (.connection place)
                  (tunnel.copyErrorLine reason)).connections[place]? = some (f connection) := hmoved
              cases hrefusal : (relay.updateConnection place f).refusal? sink
                  (tunnel.copyErrorLine reason) with
              | some panic =>
                  have hrefused : relay.refusal? sink (tunnel.copyErrorLine reason) = some panic :=
                    hrefusal
                  have hclosed : Brings (relay.updateConnection place f)
                      (((relay.updateConnection place f).write (.connection place)
                        (tunnel.copyErrorLine reason)).closeConnection place) place tunnel
                      ⟨(f connection).close, [tunnel.copyErrorLine reason], []⟩ :=
                    brings_of_write Connection.close hmoved rfl rfl rfl
                  simp only [f] at hrefusal
                  simp only [hrefusal, hrefused, Option.isSome_some, if_true]
                  exact hclosed.of_silent rfl rfl
              | none =>
                  have hgranted : relay.refusal? sink (tunnel.copyErrorLine reason) = none := hrefusal
                  simp only [f] at hrefusal
                  simp only [hrefusal, hgranted, Option.isSome_none, Bool.false_eq_true, if_false]
                  exact (endStream_brings tunnel after hwritten).of_written rfl rfl

theorem goOn_brings (surroundings : Surroundings σ) (noticed : Bool)
    (found : relay.connections[place]? = some connection) :
    Brings relay (relay.goOn surroundings place connection tunnel noticed) place tunnel
      (connection.meet tunnel (relay.turnFor surroundings tunnel noticed)) := by
  simp only [turnFor, Connection.meet, Connection.turn]
  cases phase : connection.phase with
  | waiting =>
      simp only [goOn, phase]
      cases noticed with
      | true => exact brings_of_update Connection.close found rfl rfl rfl
      | false => exact brings_of_eq found
  | accepted =>
      simp only [goOn, phase]
      exact openStream_brings surroundings noticed found
  | dialing since dialing =>
      simp only [goOn, phase]
      cases noticed with
      | true => exact brings_of_update Connection.close found rfl rfl rfl
      | false =>
          cases dialing with
          | never => exact brings_of_eq found
          | after delay outcome events =>
              by_cases early : relay.now < since + delay
              · simp only [early, Bool.false_eq_true, if_false, if_true]
                exact brings_of_eq found
              · simp only [early, Bool.false_eq_true, if_false]
                exact streamOpened_brings outcome found
  | copying link =>
      simp only [goOn, phase]
      exact copyStream_brings surroundings.sink link noticed found
  | ended =>
      simp only [goOn, phase]
      exact brings_of_eq found

theorem updateClient_brings (f : Client → Client)
    (found : relay.connections[place]? = some connection) :
    Brings relay (relay.updateClient place f) place tunnel
      ({ connection with client := f connection.client } : Connection).becomes :=
  brings_of_update (fun connection => { connection with client := f connection.client }) found rfl rfl
    rfl

end Brings

/-- A move does to a connection what the connection makes of what the move brings to it, and leaves
it alone when it brings nothing. -/
theorem perform_meets (relay : Relay σ) (surroundings : Surroundings σ) (move : Move)
    (found : relay.connection? place = some (connection, tunnel)) :
    Brings relay (relay.perform surroundings move) place tunnel
      (connection.meetAny tunnel (relay.encounter? surroundings place move)) := by
  rcases connection?_eq_some_iff.1 found with ⟨hplace, howner⟩
  by_cases own : move.connection? relay = some place
  · simp only [encounter?, own, if_true, found, Option.bind_some]
    cases move with
    | act action =>
        cases action with
        | accept index =>
            have hfirst : relay.connections.findIdx? (awaits index) = some place := own
            rcases List.findIdx?_eq_some_iff_getElem.1 hfirst with ⟨hlt, hawaits, -⟩
            rw [List.getElem?_eq_getElem hlt] at hplace
            cases hplace
            rcases awaits_iff.1 hawaits with ⟨rfl, waiting⟩
            by_cases forwarding : tunnel.phase = .forwarding
            · simp only [brings?, forwarding, if_true, Connection.meetAny, Connection.meet, waiting,
                perform, step, accept, howner, hfirst]
              exact brings_of_update (fun connection => { connection with phase := .accepted })
                (List.getElem?_eq_getElem hlt) rfl rfl rfl
            · simp only [brings?, forwarding, if_false, Connection.meetAny, perform, step,
                accept_of_not_forwarding howner forwarding]
              exact brings_of_eq (List.getElem?_eq_getElem hlt)
        | connection index =>
            cases own
            simp only [brings?, Connection.meetAny, perform, step, runConnection, found]
            exact goOn_brings surroundings _ hplace
        | send index bytes =>
            cases own
            exact updateClient_brings (·.send bytes) hplace
        | finish index =>
            cases own
            exact updateClient_brings Client.finish hplace
        | take index count =>
            cases own
            exact updateClient_brings (fun client => (client.take count).2) hplace
        | _ => cases own
    | overlookEnd index =>
        cases own
        simp only [brings?, Connection.meetAny, perform, overlookEnd, found]
        exact goOn_brings surroundings _ hplace
    | _ => cases own
  · simp only [encounter?, own, if_false, Connection.meetAny]
    have hspares := perform_spares relay surroundings own
    exact ⟨hspares.record connection hplace,
      (said_perform (silent_of_another own)).trans (List.append_nil _).symm,
      hspares.dials.trans (List.append_nil _).symm⟩

/-! ## Runs -/

/-- What a run brings to the connection in a place. -/
def encounters (surroundings : Surroundings σ) (place : Nat) : Relay σ → List Move → List Encounter
  | _, [] => []
  | relay, move :: rest =>
      (relay.encounter? surroundings place move).toList ++
        encounters surroundings place (relay.perform surroundings move) rest

theorem encounters_concat (surroundings : Surroundings σ) (place : Nat) (relay : Relay σ)
    (moves : List Move) (move : Move) :
    encounters surroundings place relay (moves ++ [move]) =
      encounters surroundings place relay moves ++
        ((relay.run surroundings moves).encounter? surroundings place move).toList := by
  induction moves generalizing relay with
  | nil => simp only [List.nil_append, encounters, List.append_nil, run, List.foldl_nil]
  | cons first rest ih =>
      simp only [List.cons_append, encounters, ih, List.append_assoc]
      rfl

theorem Brings.trans {middle : Relay σ} {first second : Meeting}
    (h : Brings before middle place tunnel first) (next : Brings middle after place tunnel second) :
    Brings before after place tunnel
      ⟨second.next, first.lines ++ second.lines, first.dials ++ second.dials⟩ where
  record := next.record
  lines := by rw [next.lines, h.lines, List.append_assoc]
  dials := by rw [next.dials, h.dials, List.append_assoc, List.map_append]

theorem Brings.congr {later : Tunnel} {meeting : Meeting}
    (h : Brings before after place tunnel meeting) (endpoint : later.endpoint = tunnel.endpoint)
    (remotePort : later.remotePort = tunnel.remotePort) : Brings before after place later meeting :=
  ⟨h.record, h.lines, by rw [h.dials, endpoint, remotePort]⟩

/-- Nothing is done by or for a connection that is not there. -/
theorem perform_of_missing (missing : relay.connections[place]? = none)
    (own : move.connection? relay = some place) : relay.perform surroundings move = relay := by
  have hnone : relay.connection? place = none := by
    rw [connection?, missing, Option.bind_none]
  have hclient (f : Client → Client) : relay.updateClient place f = relay := by
    simp only [updateClient, updateConnection, modify_of_getElem?_none _ missing]
  cases move with
  | act action =>
      cases action with
      | accept index =>
          rcases List.findIdx?_eq_some_iff_getElem.1 own with ⟨hlt, -, -⟩
          rw [List.getElem?_eq_getElem hlt] at missing
          cases missing
      | connection index =>
          cases own
          simp only [perform, step, runConnection, hnone]
      | send index bytes =>
          cases own
          exact hclient (·.send bytes)
      | finish index =>
          cases own
          exact hclient Client.finish
      | take index count =>
          cases own
          exact hclient fun client => (client.take count).2
      | _ => cases own
  | overlookEnd index =>
      cases own
      simp only [perform, overlookEnd, hnone]
  | _ => cases own

/-- A connection that was not there before a change is fresh. -/
theorem Change.connection_new (change : Change surroundings move before after)
    (missing : before.connections[place]? = none)
    (found : after.connections[place]? = some connection) :
    connection = .fresh connection.tunnel := by
  rcases change.connections_cases with
    hsame | ⟨index, _, _, _, _, hnew⟩ | ⟨index, _, _, _, hplace, _, _, _, hset, _⟩
  · rw [hsame, missing] at found
    cases found
  · have hle := List.getElem?_eq_none_iff.1 missing
    rw [hnew, List.getElem?_append_right hle] at found
    cases List.mem_singleton.1 (List.mem_of_getElem? found)
    rfl
  · have hle := List.getElem?_eq_none_iff.1 missing
    have hlt := (List.getElem?_eq_some_iff.1 found).1
    rw [hset, List.length_set] at hlt
    exact absurd hlt (Nat.not_lt_of_le hle)

theorem perform_connection_new (wellformed : Wellformed relay)
    (missing : relay.connections[place]? = none)
    (found : (relay.perform surroundings move).connections[place]? = some connection) :
    connection = .fresh connection.tunnel := by
  rcases perform_cases surroundings wellformed move with hchange | ⟨hfree, hchanges⟩
  · exact hchange.connection_new missing found
  · -- A move that concerns no tunnel takes no step of a connection that it has made.
    generalize relay.perform surroundings move = last at hchanges found
    induction hchanges generalizing connection with
    | refl => exact nomatch missing.symm.trans found
    | @tail middle last _ hchange ih =>
        cases hmiddle : middle.connections[place]? with
        | none => exact hchange.connection_new hmiddle found
        | some earlier =>
            rcases hchange.connections_cases with
              hsame | ⟨_, _, _, _, _, hnew⟩ | ⟨_, _, _, _, _, _, hown, _, _, _⟩
            · exact ih (hsame ▸ found)
            · rw [hnew, List.getElem?_append_left (List.getElem?_eq_some_iff.1 hmiddle).1] at found
              exact ih found
            · rw [hfree middle] at hown
              cases hown

/-- The tunnel of a connection stays the same one and grows. -/
theorem Extends.owner_grows {later : Connection} {owner : Tunnel} (h : Extends before after)
    (found : before.connection? place = some (connection, tunnel))
    (next : after.connection? place = some (later, owner)) : Grows tunnel owner := by
  rcases connection?_eq_some_iff.1 found with ⟨hconnection, htunnel⟩
  rcases connection?_eq_some_iff.1 next with ⟨hlater, howner⟩
  rcases h.connections place connection hconnection with ⟨same, hsame, hendures⟩
  cases hsame.symm.trans hlater
  rcases h.tunnels connection.tunnel tunnel htunnel with ⟨grown, hgrown, hgrows⟩
  rw [← hendures.tunnel] at hgrown
  cases hgrown.symm.trans howner
  exact hgrows

theorem connection?_of_getElem? (wellformed : Wellformed relay)
    (found : relay.connections[place]? = some connection) :
    ∃ tunnel, relay.connection? place = some (connection, tunnel) := by
  have hlt := wellformed.attached connection (List.mem_of_getElem? found)
  exact ⟨_, connection?_eq_some_iff.2 ⟨found, List.getElem?_eq_getElem hlt⟩⟩

theorem dialsBy_of_missing (forwards : Forwards relay) (missing : relay.connections[place]? = none) :
    relay.dialsBy place = [] := by
  refine List.filter_eq_nil_iff.2 fun dial hmem hactor => ?_
  rcases forwards.dialed dial hmem place (of_decide_eq_true hactor) with ⟨connection, found, -⟩
  exact nomatch missing.symm.trans found

/-- What is known of a place during a run. -/
structure Traced (surroundings : Surroundings σ) (start : Relay σ) (place : Nat) (moves : List Move)
    (relay : Relay σ) : Prop where
  missing : relay.connections[place]? = none → encounters surroundings place start moves = []
  made : ∀ connection tunnel, relay.connection? place = some (connection, tunnel) →
    Brings start relay place tunnel
      ((Connection.fresh connection.tunnel).after tunnel (encounters surroundings place start moves))

section Following

variable {start : Relay σ} {moves : List Move}

/-- A connection that a move makes has met nothing yet. -/
theorem Traced.step_of_missing (h : Traced surroundings start place moves before)
    (wellformed : Wellformed before) (run_eq : before = start.run surroundings moves)
    (said : before.said (.connection place) = start.said (.connection place))
    (dials : before.dialsBy place = start.dialsBy place) (missing : before.connections[place]? = none) :
    Traced surroundings start place (moves ++ [move]) (before.perform surroundings move) := by
  have hnone : before.connection? place = none := by
    rw [connection?, missing, Option.bind_none]
  have hnothing : encounters surroundings place start (moves ++ [move]) = [] := by
    rw [encounters_concat, ← run_eq, h.missing missing, encounter?, hnone]
    split <;> rfl
  refine ⟨fun _ => hnothing, fun connection tunnel found => ?_⟩
  have hfound := (connection?_eq_some_iff.1 found).1
  have another : move.connection? before ≠ some place := by
    intro own
    rw [perform_of_missing missing own, missing] at hfound
    cases hfound
  rw [hnothing]
  exact
    ⟨hfound.trans (congrArg some (perform_connection_new wellformed missing hfound)),
      ((said_perform (silent_of_another another)).trans said).trans (List.append_nil _).symm,
      ((perform_spares before surroundings another).dials.trans dials).trans
        (List.append_nil _).symm⟩

/-- A connection that is there makes of a move what it makes of the encounter. -/
theorem Traced.step_of_found (h : Traced surroundings start place moves before)
    (wellformed : Wellformed before) (run_eq : before = start.run surroundings moves)
    (hbefore : before.connections[place]? = some connection) :
    Traced surroundings start place (moves ++ [move]) (before.perform surroundings move) := by
  rcases connection?_of_getElem? wellformed hbefore with ⟨owner, hold⟩
  have hmade := h.made connection owner hold
  have hmet := perform_meets before surroundings move hold
  have hextends : Extends before (before.perform surroundings move) :=
    run_extends wellformed [move]
  rcases hextends.connections place connection hbefore with ⟨later, hlater, hendures⟩
  refine ⟨fun missing => ?_, fun other tunnel found => ?_⟩
  · rw [missing] at hlater
    cases hlater
  · have hgrows := hextends.owner_grows hold found
    cases hlater.symm.trans (connection?_eq_some_iff.1 found).1
    -- The record of the tunnel may have changed, and of this the connection knows nothing.
    rw [hendures.tunnel, Connection.after_congr hgrows.remotePort, encounters_concat, ← run_eq,
      Connection.after_append]
    have hself : connection = ((Connection.fresh connection.tunnel).after owner
        (encounters surroundings place start moves)).next :=
      Option.some.inj (hbefore.symm.trans hmade.record)
    dsimp only
    rw [← hself]
    exact (hmade.trans hmet).congr hgrows.endpoint hgrows.remotePort

end Following

/-- After every run, a connection is what it made of its encounters, and so are its lines and its
dials. -/
theorem traced_run (surroundings : Surroundings σ) (reachable : Bool) (remote : σ) (place : Nat)
    (moves : List Move) :
    Traced surroundings (idle reachable remote) place moves
      ((idle reachable remote).run surroundings moves) := by
  have hstart : Traced surroundings (idle reachable remote) place [] (idle reachable remote) := by
    refine ⟨fun _ => rfl, fun connection tunnel found => ?_⟩
    have hnone : ([] : List Connection)[place]? = some connection :=
      (connection?_eq_some_iff.1 found).1
    simp at hnone
  refine run_induction (P := Traced surroundings (idle reachable remote) place)
    (.idle reachable remote) hstart ?_ moves
  intro moves move before wellformed hrun ih
  cases hbefore : before.connections[place]? with
  | none =>
      subst hrun
      exact ih.step_of_missing wellformed rfl
        (said_run_of_isAbsent surroundings reachable remote moves hbefore)
        (dialsBy_of_missing (forwards_run surroundings reachable remote moves) hbefore) hbefore
  | some connection => exact ih.step_of_found wellformed hrun hbefore

theorem connection_of_encounters (surroundings : Surroundings σ) (reachable : Bool) (remote : σ)
    (moves : List Move)
    (found : ((idle reachable remote).run surroundings moves).connection? place =
      some (connection, tunnel)) :
    let relay := (idle reachable remote).run surroundings moves
    let meeting := (Connection.fresh connection.tunnel).after tunnel
      (encounters surroundings place (idle reachable remote) moves)
    connection = meeting.next ∧ relay.said (.connection place) = meeting.lines ∧
      relay.dialsBy place = meeting.dials.map fun instant =>
        (instant, .connection place, tunnel.endpoint, tunnel.remotePort) := by
  intro relay meeting
  have hmade : Brings (idle reachable remote) relay place tunnel meeting :=
    (traced_run surroundings reachable remote place moves).made connection tunnel found
  have hrecord := (connection?_eq_some_iff.1 found).1.symm.trans hmade.record
  exact ⟨Option.some.inj hrecord, hmade.lines, hmade.dials⟩

end Relay

end Readiness
