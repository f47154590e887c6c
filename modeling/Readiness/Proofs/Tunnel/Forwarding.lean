import Readiness.Proofs.Selection.Exits
import Readiness.Proofs.Tunnel.Attribution
import Readiness.Proofs.Tunnel.Failing

/-!
# Forwarding — a tunnel leads to the endpoint that was selected

* `Relay.Background`: in between, only tunnels with small numbers have written and dialed, and no port
  was claimed; `Relay.background_resume`: so it is while the caller selects an endpoint;
* `Relay.IsOffered`: an endpoint is the first candidate with the smallest name of what was listed;
* `Relay.Aims`: whatever happens later, all that is dialed for a tunnel goes to one endpoint and port,
  and `Relay.aims_openTunnel`: this holds of a tunnel from its opening on;
* `Relay.announcements` counts the lines that announce a tunnel; only a caller writes them;
* `Relay.forwarding_follows_selection` puts these together.
-/

namespace Readiness

namespace Relay

variable {σ : Type} {surroundings : Surroundings σ} {relay before after last : Relay σ}
  {moves : List Move} {move : Move} {index : Nat}

/-! ## While the caller is busy -/

theorem TunnelChange.length {tunnel : Tunnel}
    (change : TunnelChange surroundings move before after index tunnel) :
    after.tunnels.length = before.tunnels.length := by
  cases change with
  | probed phase own dialing dialed offset verdict events outcome core =>
      exact (congrArg (·.tunnels.length) core).trans List.length_set
  | turned next turn core => exact (congrArg (·.tunnels.length) core).trans List.length_set
  | ended states word how ending core =>
      exact (congrArg (·.tunnels.length) core).trans List.length_set

/-- No tunnel is opened by itself. -/
theorem length_run_spontaneous (spontaneous : ∀ move ∈ moves, Move.isSpontaneous move = true) :
    (relay.run surroundings moves).tunnels.length = relay.tunnels.length := by
  induction moves generalizing relay with
  | nil => rfl
  | cons move rest ih =>
      rcases List.forall_mem_cons.1 spontaneous with ⟨hmove, hrest⟩
      refine (ih hrest).trans ?_
      rcases Move.spontaneous_cases hmove with htask | ⟨instant, rfl⟩
      · cases task_change surroundings relay htask with
        | still same => rw [same]
        | tunnel index tunnel found change => exact change.length
        | connection place connection tunnel found owner own change => rw [change.tunnels]
      · simp only [perform]
        split <;> rfl

/-- In between, only tunnels with numbers below a bound have written and dialed, nothing announced a
tunnel, and no port was claimed. -/
structure Background (bound : Nat) (before after : Relay σ) : Prop where
  lines : Adds (fun line => line.2 ≠ readyLine ∧ ∃ index < bound, after.isFor index line.1 = true)
    before.lines after.lines
  dials : Adds (fun dial => ∃ index < bound, after.isFor index dial.2.1 = true)
    before.dials after.dials
  claims : ∀ port, after.ports.isClaimed port = true → before.ports.isClaimed port = true

/-- Where there are no tunnels, nothing is written and nothing is dialed. -/
theorem Background.unchanged (h : Background 0 before after) :
    after.lines = before.lines ∧ after.dials = before.dials := by
  refine ⟨h.lines.eq_of_none ?_, h.dials.eq_of_none ?_⟩
  · rintro line ⟨-, index, below, -⟩
    exact Nat.not_lt_zero index below
  · rintro dial ⟨index, below, -⟩
    exact Nat.not_lt_zero index below

section Resuming

variable (surroundings : Surroundings σ) (instant : Nat) (remote : σ) (events : List Event)

/-- Going on after the caller was busy is a run of what happens by itself. -/
theorem resume_eq_run (relay : Relay σ) : ∃ moves,
    (∀ move ∈ moves, Move.isSpontaneous move = true) ∧
      relay.resume surroundings instant remote events =
        ({ relay with remote := remote }.note events).run surroundings moves :=
  waitUntil_eq_run surroundings _ instant _

theorem follows_resume (relay : Relay σ) :
    Follows surroundings relay (relay.resume surroundings instant remote events) := by
  rcases resume_eq_run surroundings instant remote events relay with ⟨moves, -, hrun⟩
  rw [hrun]
  exact (Follows.refl.busied remote events).run moves

theorem recedes_resume (relay : Relay σ) :
    Recedes relay (relay.resume surroundings instant remote events) := by
  rcases resume_eq_run surroundings instant remote events relay with ⟨moves, hmoves, hrun⟩
  have hbusied : Recedes relay ({ relay with remote := remote }.note events) := .of_ports rfl rfl
  rw [hrun]
  exact hbusied.trans (run_recedes hmoves)

theorem length_resume (relay : Relay σ) :
    (relay.resume surroundings instant remote events).tunnels.length = relay.tunnels.length := by
  rcases resume_eq_run surroundings instant remote events relay with ⟨moves, hmoves, hrun⟩
  rw [hrun]
  exact length_run_spontaneous hmoves

/-- While the caller is busy, the tunnels that there are go on, and nothing else happens. -/
theorem background_resume (orderly : Orderly relay) :
    Background relay.tunnels.length relay
      (relay.resume surroundings instant remote events) := by
  have hlater := (follows_resume surroundings instant remote events relay).orderly orderly
  have hclaims := (recedes_resume surroundings instant remote events relay).claims
    orderly.accounted hlater.accounted
  have hlength := length_resume surroundings instant remote events relay
  rcases resume_eq_run surroundings instant remote events relay with ⟨moves, -, hrun⟩
  have hbusied : Wellformed ({ relay with remote := remote }.note events) :=
    ⟨orderly.wellformed.apart, orderly.wellformed.attached⟩
  have haccords := accords_run surroundings hbusied moves
  rw [← hrun] at haccords
  refine ⟨haccords.lines.imp ?_, haccords.dials.imp ?_, hclaims⟩
  · rintro line ⟨index, there, own, utterance⟩
    exact ⟨utterance.ne_readyLine, index, hlength ▸ there, own⟩
  · rintro dial ⟨index, tunnel, found, own, -⟩
    exact ⟨index, hlength ▸ (List.getElem?_eq_some_iff.1 found).1, own⟩

end Resuming

/-! ## The selected endpoint -/

/-- The source lists pods at an instant, and the endpoint is the first one with the smallest name among
those that meet the query. -/
def IsOffered (source : Source σ) (ns : String) (query : LabelQuery) (now : Nat) (remote : σ)
    (endpoint : Endpoint) : Prop :=
  ∃ delay candidates events chosen,
    (source.list now .pod ns query.selector? remote).1 = .after delay (.ok candidates) events ∧
      query.Picks candidates chosen ∧ endpoint = .ofSnapshot ns chosen

theorem isOffered_of_selected {source : Source σ} {ns : String} {query : LabelQuery} {now : Nat}
    {remote : σ} {delay : Nat} {endpoint : Endpoint} {events : List Event}
    (selected : (select source .pod ns query now remote).1 = .after delay (.ok endpoint) events) :
    IsOffered source ns query now remote endpoint := by
  cases satisfiable : query.isUnsatisfiable with
  | true =>
      rw [select_of_unsatisfiable source .pod ns satisfiable] at selected
      cases selected
  | false =>
      have hconcludes := (select_of_satisfiable source .pod ns satisfiable now remote).1
      rw [selected] at hconcludes
      generalize hlisting : (source.list now .pod ns query.selector? remote).1 = listing at hconcludes
      cases hconcludes with
      | finds picks more => exact ⟨_, _, _, _, hlisting, picks, rfl⟩

/-! ## Dials of one tunnel -/

section Openings

variable {options : TunnelOptions} {endpoint : Endpoint} {remotePort number : Nat}
  {host : Ports.Host}

/-- Whatever happens to a relay, all that is dialed for a tunnel goes to one endpoint and port. -/
def Aims (surroundings : Surroundings σ) (relay : Relay σ) (index : Nat) (endpoint : Endpoint)
    (remotePort : Nat) : Prop :=
  ∀ last, Follows surroundings relay last → ∀ dial ∈ last.dials,
    last.isFor index dial.2.1 = true → dial.2.2 = (endpoint, remotePort)

/-- A tunnel that leads to an endpoint always did, and always will. -/
theorem Orderly.aims {tunnel : Tunnel} (orderly : Orderly relay)
    (found : relay.tunnels[index]? = some tunnel) :
    Aims surroundings relay index tunnel.endpoint tunnel.remotePort := by
  intro last hfollows dial hmem own
  have hextends : Extends relay last := (hfollows.extends orderly.wellformed).2
  rcases (hfollows.orderly orderly).dials dial hmem with ⟨other, owner, howner, hown, hdial⟩
  cases isFor_unique own hown
  rcases hextends.tunnels index tunnel found with ⟨later, hlater, hgrows⟩
  cases howner.symm.trans hlater
  rw [hdial, hgrows.endpoint, hgrows.remotePort]

/-- Opening a tunnel begins with its start, which is a move; the rest happens by itself. -/
theorem openTunnel_eq_run_of_orderly (surroundings : Surroundings σ) (options : TunnelOptions)
    (endpoint : Endpoint) (remotePort : Nat) (host : Ports.Host) (orderly : Orderly relay) :
    ∃ moves, (∀ move ∈ moves, Move.isSpontaneous move = true) ∧
      (relay.openTunnel surroundings options endpoint remotePort host none).2 =
        relay.run surroundings (.act (.start options endpoint remotePort host) :: moves) := by
  rcases openTunnel_eq_run surroundings options endpoint remotePort host orderly.wellformed
    orderly.silent with ⟨moves, hmoves, hrun⟩
  exact ⟨moves, hmoves, hrun⟩

theorem follows_openTunnel (surroundings : Surroundings σ) (options : TunnelOptions)
    (endpoint : Endpoint) (remotePort : Nat) (host : Ports.Host) (orderly : Orderly relay) :
    Follows surroundings relay
      (relay.openTunnel surroundings options endpoint remotePort host none).2 := by
  rcases openTunnel_eq_run_of_orderly surroundings options endpoint remotePort host orderly with
    ⟨moves, -, hrun⟩
  rw [hrun]
  exact Follows.refl.run _

/-- An opening adds the one tunnel that it opens, if the port can be bound. -/
theorem tunnel_of_openTunnel {tunnel : Tunnel} (orderly : Orderly relay)
    (later : relay.tunnels.length ≤ index)
    (found : (relay.openTunnel surroundings options endpoint remotePort host none).2.tunnels[index]? =
      some tunnel) :
    index = relay.tunnels.length ∧ tunnel.endpoint = endpoint ∧ tunnel.remotePort = remotePort := by
  rcases openTunnel_eq_run surroundings options endpoint remotePort host orderly.wellformed
    orderly.silent with ⟨moves, hmoves, hrun⟩
  have hlt := (List.getElem?_eq_some_iff.1 found).1
  rw [hrun, length_run_spontaneous hmoves] at hlt
  rcases hlisten : relay.ports.listen options.localPort host with ⟨granted, ports⟩
  cases granted with
  | error error =>
      rw [(start_of_error endpoint remotePort hlisten).2.1] at hlt
      exact absurd hlt (Nat.not_lt_of_le later)
  | ok grant =>
      have htunnels := (start_of_bound endpoint remotePort hlisten).2.1
      rw [htunnels, List.length_append, List.length_singleton] at hlt
      have hindex : index = relay.tunnels.length := by omega
      subst hindex
      have hstarted := orderly.wellformed.start surroundings options endpoint remotePort host
      rcases (run_extends hstarted moves).tunnels _ _ (getElem?_start endpoint remotePort hlisten) with
        ⟨same, hsame, hgrows⟩
      rw [hrun] at found
      cases found.symm.trans hsame
      exact ⟨rfl, hgrows.endpoint, hgrows.remotePort⟩

theorem aims_openTunnel {tunnel : Tunnel} (orderly : Orderly relay)
    (found : (relay.openTunnel surroundings options endpoint remotePort host
      none).2.tunnels[relay.tunnels.length]? = some tunnel) :
    Aims surroundings (relay.openTunnel surroundings options endpoint remotePort host none).2
      relay.tunnels.length endpoint remotePort := by
  have hopened :=
    (follows_openTunnel surroundings options endpoint remotePort host orderly).orderly orderly
  rcases tunnel_of_openTunnel orderly (Nat.le_refl _) found with ⟨-, rfl, rfl⟩
  exact hopened.aims found

/-- While a tunnel is opened, what is dialed goes where it leads, or is dialed for another tunnel that
was there. -/
theorem dials_openTunnel (orderly : Orderly relay) :
    Adds (fun dial => dial.2.2 = (endpoint, remotePort) ∨ ∃ other < relay.tunnels.length,
        (relay.openTunnel surroundings options endpoint remotePort host none).2.isFor other dial.2.1 =
          true)
      relay.dials (relay.openTunnel surroundings options endpoint remotePort host none).2.dials := by
  rcases openTunnel_eq_run_of_orderly surroundings options endpoint remotePort host orderly with
    ⟨moves, -, hrun⟩
  have haccords := accords_run surroundings orderly.wellformed
    (.act (.start options endpoint remotePort host) :: moves)
  rw [← hrun] at haccords
  refine haccords.dials.imp ?_
  rintro dial ⟨other, tunnel, found, own, hdial⟩
  by_cases old : other < relay.tunnels.length
  · exact .inr ⟨other, old, own⟩
  · rcases tunnel_of_openTunnel orderly (Nat.le_of_not_lt old) found with ⟨-, rfl, rfl⟩
    exact .inl hdial

/-- The tunnel that a caller gets is ready, and its worker has said where it forwards. -/
theorem tunnel_of_opened (orderly : Orderly relay)
    (opened : (relay.openTunnel surroundings options endpoint remotePort host none).1 =
      .done (.ok number)) :
    number = relay.tunnels.length ∧ ∃ tunnel : Tunnel,
      (relay.openTunnel surroundings options endpoint remotePort host none).2.tunnels[number]? =
          some tunnel ∧
        tunnel.state = .ready ∧ tunnel.owner = .holding ∧
        (relay.openTunnel surroundings options endpoint remotePort host none).2.said (.worker number) =
          [tunnel.forwardingLine] := by
  rcases hlisten : relay.ports.listen options.localPort host with ⟨granted, ports⟩
  cases granted with
  | error error =>
      rw [openTunnel_of_error hlisten] at opened
      cases opened
  | ok grant =>
      rcases openTunnel_of_bound endpoint remotePort surroundings orderly.wellformed orderly.silent
        hlisten with ⟨_, _, result, ⟨answered, -, found⟩, hresult, -⟩
      rw [hresult] at opened
      cases result with
      | error error => cases opened
      | ok _ =>
          cases opened
          cases answered with
          | ready decides said => exact ⟨rfl, _, found, rfl, rfl, said⟩

/-- A failed opening leaves no claim behind. -/
theorem claims_of_failed {error : Error} (orderly : Orderly relay)
    (failed : (relay.openTunnel surroundings options endpoint remotePort host none).1 =
      .done (.error error)) (port : Nat)
    (claimed : (relay.openTunnel surroundings options endpoint remotePort host none).2.ports.isClaimed
      port = true) : relay.ports.isClaimed port = true := by
  have hopened :=
    (follows_openTunnel surroundings options endpoint remotePort host orderly).orderly orderly
  have hrecedes := openTunnel_recedes orderly.wellformed orderly.accounted.consistent orderly.silent
    hopened.accounted failed
  exact hrecedes.claims orderly.accounted hopened.accounted port claimed

end Openings

/-! ## Announcements -/

/-- How often a tunnel was announced. -/
def announcements (relay : Relay σ) : Nat := relay.lineTexts.count readyLine

theorem announcements_of_adds
    (h : Adds (fun line => line.2 ≠ readyLine) before.lines after.lines) :
    after.announcements = before.announcements := by
  rcases h with ⟨more, hlines, others⟩
  have hnone : (more.map (·.2)).count readyLine = 0 := by
    rw [List.count_eq_zero]
    intro hmem
    rcases List.mem_map.1 hmem with ⟨line, hline, heq⟩
    exact others line hline heq
  rw [announcements, lineTexts, hlines, List.map_append, List.count_append, hnone, Nat.add_zero]
  rfl

/-- No worker and no connection announces a tunnel. -/
theorem announcements_run (surroundings : Surroundings σ) (wellformed : Wellformed relay)
    (moves : List Move) : (relay.run surroundings moves).announcements = relay.announcements := by
  refine announcements_of_adds ((accords_run surroundings wellformed moves).lines.imp ?_)
  rintro line ⟨-, -, -, utterance⟩
  exact utterance.ne_readyLine

theorem Background.announcements {bound : Nat} (h : Background bound before after) :
    after.announcements = before.announcements :=
  announcements_of_adds (h.lines.imp fun _ told => told.1)

theorem announcements_openTunnel (surroundings : Surroundings σ) (options : TunnelOptions)
    (endpoint : Endpoint) (remotePort : Nat) (host : Ports.Host) (orderly : Orderly relay) :
    (relay.openTunnel surroundings options endpoint remotePort host none).2.announcements =
      relay.announcements := by
  rcases openTunnel_eq_run_of_orderly surroundings options endpoint remotePort host orderly with
    ⟨moves, -, hrun⟩
  rw [hrun]
  exact announcements_run surroundings orderly.wellformed _

theorem announcements_write (relay : Relay σ) :
    (relay.write .caller readyLine).announcements = relay.announcements + 1 := by
  simp only [announcements, lineTexts, write, List.map_append, List.map_cons, List.map_nil,
    List.count_append, List.count_cons_self, List.count_nil]

/-! ## Forwarding -/

section Forwarding

variable {source : Source σ} {options : TunnelOptions} {ns : String} {query : LabelQuery}
  {remotePort number delay : Nat} {host : Ports.Host} {events : List Event} {remote : σ}
  {endpoint : Endpoint} {error : Error} {opened : Relay σ}

theorem forward_of_never
    (never : select source .pod ns query relay.now relay.remote = (.never, remote)) :
    relay.forward surroundings source options ns query remotePort host = none := by
  simp only [forward, never]

theorem forward_of_unselected
    (answer : select source .pod ns query relay.now relay.remote =
      (.after delay (.error error) events, remote)) :
    relay.forward surroundings source options ns query remotePort host =
      some (.error error, relay.resume surroundings (relay.now + delay) remote events) := by
  simp only [forward, answer]

theorem forward_of_selected
    (answer : select source .pod ns query relay.now relay.remote =
      (.after delay (.ok endpoint) events, remote)) :
    relay.forward surroundings source options ns query remotePort host =
      (relay.resume surroundings (relay.now + delay) remote events).forwardTo surroundings options
        remotePort host endpoint := by
  simp only [forward, answer]

theorem forwardTo_of_failed
    (failed : relay.openTunnel surroundings options endpoint remotePort host none =
      (.done (.error error), opened)) :
    relay.forwardTo surroundings options remotePort host endpoint = some (.error error, opened) := by
  simp only [forwardTo, failed]

/-- A tunnel that is open is announced, unless the sink breaks down on that. -/
theorem forwardTo_of_opened
    (opening : relay.openTunnel surroundings options endpoint remotePort host none =
      (.done (.ok number), opened)) :
    relay.forwardTo surroundings options remotePort host endpoint =
      if (opened.refusal? surroundings.sink readyLine).isSome then none
      else some (.ok number, opened.write .caller readyLine) := by
  simp only [forwardTo, opening, announce]
  cases opened.refusal? surroundings.sink readyLine <;> rfl

end Forwarding

/-- What a caller has who was given a tunnel with a number: once the tunnel was open, it was announced,
for the first time since an earlier relay, and no move announces it again. The tunnel is ready, and
before it was announced its worker had said where it forwards, and nothing else. -/
structure Given (surroundings : Surroundings σ) (earlier opened last : Relay σ) (number : Nat) :
    Prop where
  announced : last = opened.write .caller readyLine
  once : ∀ moves, (last.run surroundings moves).announcements = earlier.announcements + 1
  ready : ∃ tunnel : Tunnel, last.tunnels[number]? = some tunnel ∧ tunnel.state = .ready ∧
    tunnel.owner = .holding ∧ opened.said (.worker number) = [tunnel.forwardingLine]

section Tunnels

variable {options : TunnelOptions} {endpoint : Endpoint} {remotePort number : Nat}
  {host : Ports.Host}

/-- A caller who is given a tunnel has opened it and announced it. -/
theorem given_of_forwardTo (orderly : Orderly relay)
    (forwarded : relay.forwardTo surroundings options remotePort host endpoint =
      some (.ok number, last)) :
    number = relay.tunnels.length ∧
      Given surroundings relay
        (relay.openTunnel surroundings options endpoint remotePort host none).2 last number := by
  have hfollows := follows_openTunnel surroundings options endpoint remotePort host orderly
  have hannouncements := announcements_openTunnel surroundings options endpoint remotePort host orderly
  rcases openTunnel_returns surroundings options endpoint remotePort host orderly.wellformed
    orderly.silent with ⟨result, hresult, -⟩
  cases result with
  | error error =>
      rw [forwardTo_of_failed (Prod.ext hresult rfl)] at forwarded
      cases forwarded
  | ok other =>
      rcases tunnel_of_opened orderly hresult with ⟨hnumber, tunnel, found, ready, holding, said⟩
      rw [forwardTo_of_opened (Prod.ext hresult rfl)] at forwarded
      split at forwarded
      · cases forwarded
      · cases forwarded
        refine ⟨hnumber, rfl, fun moves => ?_, tunnel, found, ready, holding, said⟩
        have hlast := ((hfollows.spoke readyLine).orderly orderly).wellformed
        rw [announcements_run surroundings hlast, announcements_write, hannouncements]

end Tunnels

/-- Whatever has happened to a relay, and whatever the source, the transport, the sink and the host are
like: while an endpoint is selected, the tunnels that there are go on, nothing else is dialed or written,
and no port is claimed. When no endpoint can be selected, the caller gets that error and nothing more
happens. Otherwise the endpoint is the first candidate with the smallest name of those that were listed
and meet the query. All that is dialed while the tunnel is opened, as far as it is not for a tunnel that
was there before, goes to this endpoint and the given port, and so does all that is ever dialed for the
tunnel. When it cannot be opened, the caller gets the error of the opening, no port is claimed that was
not claimed before, and nothing announces the tunnel, then or later. Otherwise the caller gets it as
long as the sink takes the announcement, which is written once, behind the line of the worker that says
where it forwards, and the tunnel is ready. -/
theorem forwarding_follows_selection (arises : Arises surroundings relay) (source : Source σ)
    (options : TunnelOptions) (ns : String) (query : LabelQuery) (remotePort : Nat)
    (host : Ports.Host) :
    let asked := select source .pod ns query relay.now relay.remote
    let forwarded := relay.forward surroundings source options ns query remotePort host
    let index := relay.tunnels.length
    (asked.1 = .never → forwarded = none) ∧
      ∀ delay selected events, asked.1 = .after delay selected events →
        let rested := relay.resume surroundings (relay.now + delay) asked.2 events
        Background index relay rested ∧
          (∀ error, selected = .error error → forwarded = some (.error error, rested)) ∧
          ∀ endpoint, selected = .ok endpoint →
            let opening := rested.openTunnel surroundings options endpoint remotePort host none
            let opened := opening.2
            IsOffered source ns query relay.now relay.remote endpoint ∧
              Adds (fun dial => dial.2.2 = (endpoint, remotePort) ∨
                  ∃ other < index, opened.isFor other dial.2.1 = true) rested.dials opened.dials ∧
              (∀ tunnel, opened.tunnels[index]? = some tunnel →
                Aims surroundings opened index endpoint remotePort) ∧
              (∃ result, opening.1 = .done result) ∧
              (∀ error, opening.1 = .done (.error error) →
                forwarded = some (.error error, opened) ∧
                  (∀ port, opened.ports.isClaimed port = true →
                    relay.ports.isClaimed port = true) ∧
                  ∀ moves, (opened.run surroundings moves).announcements = relay.announcements) ∧
              (∀ number, opening.1 = .done (.ok number) →
                opened.refusal? surroundings.sink readyLine = none →
                  ∃ last, forwarded = some (.ok number, last)) ∧
              ∀ number last, forwarded = some (.ok number, last) →
                number = index ∧ Given surroundings relay opened last number := by
  intro asked forwarded index
  have horderly : Orderly relay := arises.orderly
  refine ⟨fun never => forward_of_never (Prod.ext never rfl), ?_⟩
  intro delay selected events hasked rested
  have hrested : Orderly rested := (follows_resume surroundings _ _ _ relay).orderly horderly
  have hbackground : Background index relay rested := background_resume surroundings _ _ _ horderly
  have hindex : rested.tunnels.length = index := length_resume surroundings _ _ _ relay
  refine ⟨hbackground, ?_, ?_⟩
  · rintro error rfl
    exact forward_of_unselected (Prod.ext hasked rfl)
  rintro endpoint rfl opening opened
  have hforwarded : forwarded = rested.forwardTo surroundings options remotePort host endpoint :=
    forward_of_selected (Prod.ext hasked rfl)
  have hopened : Orderly opened :=
    (follows_openTunnel surroundings options endpoint remotePort host hrested).orderly hrested
  rcases openTunnel_returns surroundings options endpoint remotePort host hrested.wellformed
    hrested.silent with ⟨result, hresult, -⟩
  refine ⟨isOffered_of_selected hasked, hindex ▸ dials_openTunnel hrested, fun tunnel found => ?_,
    ⟨result, hresult⟩, ?_, ?_, ?_⟩
  · rw [← hindex] at found ⊢
    exact aims_openTunnel hrested found
  · intro error failed
    refine ⟨hforwarded.trans (forwardTo_of_failed (Prod.ext failed rfl)), fun port claimed => ?_,
      fun moves => ?_⟩
    · exact hbackground.claims port (claims_of_failed hrested failed port claimed)
    · calc (opened.run surroundings moves).announcements
          = opened.announcements := announcements_run surroundings hopened.wellformed moves
        _ = rested.announcements :=
            announcements_openTunnel surroundings options endpoint remotePort host hrested
        _ = relay.announcements := hbackground.announcements
  · intro number succeeded taken
    refine ⟨opened.write .caller readyLine, hforwarded.trans ?_⟩
    rw [forwardTo_of_opened (Prod.ext succeeded rfl), if_neg]
    rw [taken]
    exact Bool.false_ne_true
  · intro number last returned
    rcases given_of_forwardTo hrested (hforwarded.symm.trans returned) with ⟨hnumber, hgiven⟩
    exact ⟨hnumber.trans hindex, hgiven.announced,
      fun moves => (hgiven.once moves).trans (congrArg (· + 1) hbackground.announcements),
      hgiven.ready⟩

/-- Three pods are listed after seven milliseconds. -/
def listedPods : Source Unit :=
  ⟨fun _ _ _ => (.never, ()), fun _ _ _ _ _ => (.after 7 (.ok threePods) [], ())⟩

theorem select_listedPods :
    select listedPods .pod "e2e" frontendQuery 0 () =
      (.after 7 (.ok (.ofSnapshot "e2e" (podWithRole "web-0" "frontend")))
        (selectionEvents .pod "e2e" frontendQuery threePods), ()) := by
  have satisfiable : frontendQuery.isUnsatisfiable = false := by decide
  have hselect : selectFrom .pod "e2e" frontendQuery threePods =
      .ok (.ofSnapshot "e2e" (podWithRole "web-0" "frontend")) := by
    simp only [selectFrom, choose_eq_some_iff.2 frontendQuery_picks]
  simp only [select, satisfiable, listedPods, hselect, Bool.false_eq_true, if_false, List.nil_append]

/-- Where streams open after five milliseconds, a tunnel can be opened on a port that is free. -/
theorem openTunnel_promptTransport {relay : Relay Unit} (orderly : Orderly relay)
    (free : relay.ports.CanBind 9000 (.choosing 49152)) (endpoint : Endpoint) (remotePort : Nat) :
    (relay.openTunnel ⟨promptTransport, .reliable⟩ fixedPort endpoint remotePort (.choosing 49152)
      none).1 = .done (.ok relay.tunnels.length) := by
  rcases free with ⟨grant, ports, bound⟩
  have heard : relay.ports.listen fixedPort.localPort (.choosing 49152) = (.ok grant, ports) :=
    congrArg (Ports.located none) bound
  rcases openTunnel_of_ruling ⟨promptTransport, .reliable⟩ fixedPort endpoint remotePort
    (.choosing 49152) orderly.wellformed orderly.silent heard (fun _ => not_brokeOn_reliable) with
      ⟨dialing, ⟨before, -, hdialing⟩, hfollows⟩
  cases hdialing
  exact (hfollows 5 .ready (.inTime (.connected rfl) (by decide))).2

/-- A tunnel leads to the smaller of the two pods that meet the query. -/
theorem listedPods_are_forwarded :
    let surroundings : Surroundings Unit := ⟨promptTransport, .reliable⟩
    let endpoint := Endpoint.ofSnapshot "e2e" (podWithRole "web-0" "frontend")
    ∃ last, (idle true ()).forward surroundings listedPods fixedPort "e2e" frontendQuery 7233
        (.choosing 49152) = some (.ok 0, last) ∧
      last.lines.getLast? = some (.caller, readyLine) ∧
      last.announcements = 1 ∧
      ∀ moves, ∀ dial ∈ (last.run surroundings moves).dials,
        (last.run surroundings moves).isFor 0 dial.2.1 = true → dial.2.2 = (endpoint, 7233) := by
  intro surroundings endpoint
  have harises : Arises surroundings (idle true ()) := ⟨true, (), .refl⟩
  rcases forwarding_follows_selection harises listedPods fixedPort "e2e" frontendQuery 7233
    (.choosing 49152) with ⟨-, hselected⟩
  rcases hselected 7 _ _ (congrArg Prod.fst select_listedPods) with ⟨-, -, hfollowed⟩
  rcases hfollowed endpoint rfl with ⟨-, -, haims, -, -, hopened, hgiven⟩
  have hrecedes := recedes_resume surroundings 7 ()
    (selectionEvents .pod "e2e" frontendQuery threePods) (idle true ())
  have hrested := ((follows_resume surroundings 7 ()
    (selectionEvents .pod "e2e" frontendQuery threePods) (idle true ())).orderly harises.orderly)
  have hidle : (idle true ()).ports.CanBind 9000 (.choosing 49152) := ⟨_, _, rfl⟩
  have hfree := hrecedes.canBind harises.orderly.accounted hrested.accounted (by decide : 9000 ≠ 0)
    hidle
  rcases hopened _ (openTunnel_promptTransport hrested hfree endpoint 7233) rfl with
    ⟨last, hreturned⟩
  rcases hgiven _ last hreturned with ⟨hnumber, rfl, honce, tunnel, found, -⟩
  rw [hnumber] at hreturned found
  refine ⟨_, hreturned, List.getLast?_concat, honce [], fun moves dial hmem own => ?_⟩
  exact haims tunnel found _ ((Follows.refl.spoke readyLine).run moves) dial hmem own

end Relay

end Readiness
