import Readiness.Proofs.Tunnel.Reports
import Readiness.Proofs.Tunnel.Stopping
import Readiness.Tunnel.Forward

/-!
# Attribution — who wrote a line, and for whom a stream was opened

What stands among the lines and the dials of a relay, the worker or a connection of one of its tunnels
has put there, or the caller wrote it.

* `Tunnel.Utterance.ne_readyLine`: no text that a worker or a connection writes announces a tunnel;
* `Relay.IsTold` and `Relay.IsAimed`: a line and a dial that a tunnel answers for;
* `Relay.Accords`: all that was written and dialed in between is of this kind, and
  `Relay.accords_run`: this holds from one end of a run to the other;
* `Relay.Follows` is everything that can happen to a relay whose caller is also busy with the remote
  side and writes lines, and `Relay.Arises.orderly` what is known of all such relays.
-/

namespace Readiness

/-! ## Texts -/

namespace Tunnel

/-- No text of a worker or a connection begins like the line by which a caller announces a tunnel. -/
theorem Utterance.ne_readyLine {text : String} (h : Utterance text) : text ≠ Relay.readyLine := by
  have differs (first rest : String) (long : 1 ≤ first.toList.length)
      (differ : first.toList.take 1 ≠ Relay.readyLine.toList.take 1) :
      first ++ rest ≠ Relay.readyLine := by
    have hne := append_ne_append first Relay.readyLine 1 ⟨long, by decide⟩ differ rest ""
    rwa [String.append_empty] at hne
  cases h with
  | forwarding tunnel =>
      unfold forwardingLine
      rw [String.append_assoc, String.append_assoc]
      exact differs "Forwarding from " _ (by decide) (by decide)
  | failed reason => exact differs "error: " reason (by decide) (by decide)
  | stopped => decide
  | handling tunnel => exact differs "Handling connection for " _ (by decide) (by decide)
  | streamFailed tunnel reason =>
      unfold streamErrorLine
      rw [String.append_assoc, String.append_assoc]
      exact differs "error forwarding port " _ (by decide) (by decide)
  | copyingFailed tunnel reason =>
      unfold copyErrorLine
      rw [String.append_assoc, String.append_assoc]
      exact differs "error copying port " _ (by decide) (by decide)

end Tunnel

open Tunnel (Utterance)

namespace Relay

variable {σ : Type} {surroundings : Surroundings σ} {start relay before after : Relay σ}
  {move : Move} {index : Nat} {actor : Actor}

/-! ## Lines and dials of tunnels -/

/-- A tunnel answers for a line: its worker or a connection of it wrote the line. -/
def IsTold (relay : Relay σ) (line : Actor × String) : Prop :=
  ∃ index < relay.tunnels.length, relay.isFor index line.1 = true ∧ Utterance line.2

/-- A tunnel answers for a dial: the stream was to be opened for it, to where it leads. -/
def IsAimed (relay : Relay σ) (dial : Nat × Actor × Endpoint × Nat) : Prop :=
  ∃ index tunnel, relay.tunnels[index]? = some tunnel ∧ relay.isFor index dial.2.1 = true ∧
    dial.2.2 = (tunnel.endpoint, tunnel.remotePort)

theorem isFor_worker (relay : Relay σ) (index : Nat) :
    relay.isFor index (.worker index) = true := decide_eq_true rfl

theorem isFor_connection {place : Nat} {connection : Connection}
    (found : relay.connections[place]? = some connection) :
    relay.isFor connection.tunnel (.connection place) = true := by
  simp only [isFor, found, Option.map_some, decide_true]

/-- Nobody belongs to two tunnels. -/
theorem isFor_unique {other : Nat} (one : relay.isFor index actor = true)
    (another : relay.isFor other actor = true) : index = other := by
  cases actor with
  | worker tunnel => exact (of_decide_eq_true one).symm.trans (of_decide_eq_true another)
  | connection place =>
      have hone := of_decide_eq_true one
      have hanother := of_decide_eq_true another
      exact Option.some.inj (hone.symm.trans hanother)
  | caller => cases one

namespace Extends

theorem isFor_of_isFor (h : Extends before after) (own : before.isFor index actor = true) :
    after.isFor index actor = true := by
  cases actor with
  | worker tunnel => exact own
  | connection place =>
      rcases Option.map_eq_some_iff.1 (of_decide_eq_true own) with ⟨connection, found, rfl⟩
      rcases h.connections place connection found with ⟨later, hlater, hendures⟩
      exact hendures.tunnel ▸ isFor_connection hlater
  | caller => cases own

theorem length_le (h : Extends before after) : before.tunnels.length ≤ after.tunnels.length := by
  refine Nat.le_of_not_lt fun shorter => ?_
  rcases h.tunnels _ _ (List.getElem?_eq_getElem shorter) with ⟨later, hlater, -⟩
  exact Nat.lt_irrefl _ (List.getElem?_eq_some_iff.1 hlater).1

theorem isTold (h : Extends before after) {line : Actor × String} (told : IsTold before line) :
    IsTold after line := by
  rcases told with ⟨index, hlt, own, utterance⟩
  exact ⟨index, Nat.lt_of_lt_of_le hlt h.length_le, h.isFor_of_isFor own, utterance⟩

theorem isAimed (h : Extends before after) {dial : Nat × Actor × Endpoint × Nat}
    (aimed : IsAimed before dial) : IsAimed after dial := by
  rcases aimed with ⟨index, tunnel, found, own, hdial⟩
  rcases h.tunnels index tunnel found with ⟨later, hlater, hgrows⟩
  refine ⟨index, later, hlater, h.isFor_of_isFor own, ?_⟩
  rw [hdial, hgrows.endpoint, hgrows.remotePort]

end Extends

/-- All that was written and dialed in between, tunnels answer for. -/
structure Accords (before after : Relay σ) : Prop where
  lines : Adds (IsTold after) before.lines after.lines
  dials : Adds (IsAimed after) before.dials after.dials

/-- Who is there, but for the caller, belongs to a tunnel. -/
theorem exists_isFor (wellformed : Wellformed relay) (present : ¬ IsAbsent relay actor)
    (other : actor ≠ .caller) : ∃ index < relay.tunnels.length, relay.isFor index actor = true := by
  cases actor with
  | worker index =>
      cases found : relay.tunnels[index]? with
      | none => exact absurd found present
      | some tunnel =>
          exact ⟨index, (List.getElem?_eq_some_iff.1 found).1, isFor_worker relay index⟩
  | connection place =>
      cases found : relay.connections[place]? with
      | none => exact absurd found present
      | some connection =>
          exact ⟨connection.tunnel, wellformed.attached connection (List.mem_of_getElem? found),
            isFor_connection found⟩
  | caller => exact absurd rfl other

/-- What a move writes, a tunnel answers for that is there. -/
theorem perform_adds_lines (surroundings : Surroundings σ) (wellformed : Wellformed relay)
    (move : Move) :
    Adds (IsTold (relay.perform surroundings move)) relay.lines
      (relay.perform surroundings move).lines := by
  have hextends : Extends relay (relay.perform surroundings move) := run_extends wellformed [move]
  cases hspeaker : move.speaker? with
  | none => exact .of_eq (lines_perform_of_silent relay surroundings hspeaker)
  | some actor =>
      by_cases absent : IsAbsent relay actor
      · exact .of_eq (by rw [perform_of_isAbsent absent hspeaker])
      · rcases exists_isFor wellformed absent (Move.speaker_ne_caller hspeaker) with
          ⟨index, there, own⟩
        refine Adds.imp (perform_tells relay surroundings hspeaker) fun line hline => ?_
        exact ⟨index, Nat.lt_of_lt_of_le there hextends.length_le,
          hline.1 ▸ hextends.isFor_of_isFor own, hline.2⟩

/-- What a change dials, a tunnel answers for. -/
theorem Change.adds_dials (change : Change surroundings move before after) :
    Adds (IsAimed after) before.dials after.dials := by
  rcases change.dials_cases with
    hsame | ⟨index, tunnel, found, -, -, hdialed⟩ |
      ⟨place, connection, tunnel, found, owner, -, hdialed⟩
  · exact .of_eq hsame
  · refine .concat (change.extends.isAimed ?_) hdialed
    exact ⟨index, tunnel, found, isFor_worker before index, rfl⟩
  · refine .concat (change.extends.isAimed ?_) hdialed
    exact ⟨connection.tunnel, tunnel, owner, isFor_connection found, rfl⟩

theorem accords_run (surroundings : Surroundings σ) (wellformed : Wellformed relay)
    (moves : List Move) : Accords relay (relay.run surroundings moves) where
  lines := by
    refine run_induction (P := fun _ last => Adds (IsTold last) relay.lines last.lines) wellformed
      (.of_eq rfl) ?_ moves
    intro moves move before hwellformed _ ih
    have hextends : Extends before (before.perform surroundings move) :=
      run_extends hwellformed [move]
    exact (ih.imp fun _ => hextends.isTold).trans (perform_adds_lines surroundings hwellformed move)
  dials :=
    (run_invariant (P := fun last => Adds (IsAimed last) relay.dials last.dials) wellformed
      (fun _ _ _ _ _ change h => (h.imp fun _ => change.extends.isAimed).trans change.adds_dials)
      (.of_eq rfl)).2

/-! ## Callers who do other things as well -/

/-- What can happen to a relay: all moves, what its caller does with the remote side, and lines of the
caller. -/
inductive Follows (surroundings : Surroundings σ) (start : Relay σ) : Relay σ → Prop
  | refl : Follows surroundings start start
  | moved {relay : Relay σ} (h : Follows surroundings start relay) (move : Move) :
      Follows surroundings start (relay.perform surroundings move)
  | busied {relay : Relay σ} (h : Follows surroundings start relay) (remote : σ)
      (events : List Event) :
      Follows surroundings start ({ relay with remote := remote }.note events)
  | spoke {relay : Relay σ} (h : Follows surroundings start relay) (line : String) :
      Follows surroundings start (relay.write .caller line)

theorem Follows.trans (first : Follows surroundings start relay)
    (second : Follows surroundings relay after) : Follows surroundings start after := by
  induction second with
  | refl => exact first
  | moved _ move ih => exact ih.moved move
  | busied _ remote events ih => exact ih.busied remote events
  | spoke _ line ih => exact ih.spoke line

theorem Follows.run (h : Follows surroundings start relay) (moves : List Move) :
    Follows surroundings start (relay.run surroundings moves) := by
  induction moves generalizing relay with
  | nil => exact h
  | cons move rest ih => exact ih (h.moved move)

theorem Follows.extends (h : Follows surroundings start relay) (wellformed : Wellformed start) :
    Wellformed relay ∧ Extends start relay := by
  induction h with
  | refl => exact ⟨wellformed, .refl start⟩
  | moved _ move ih => exact ⟨ih.1.perform move, ih.2.trans (run_extends ih.1 [move])⟩
  | busied _ remote events ih =>
      exact ⟨⟨ih.1.apart, ih.1.attached⟩, ih.2.now, ih.2.dials, ih.2.tunnels, ih.2.connections⟩
  | spoke _ line ih =>
      exact ⟨⟨ih.1.apart, ih.1.attached⟩, ih.2.now, ih.2.dials, ih.2.tunnels, ih.2.connections⟩

/-- What is known of a relay, whatever happened to it. -/
structure Orderly (relay : Relay σ) : Prop where
  wellformed : Wellformed relay
  accounted : IsAccounted relay
  lines : ∀ line ∈ relay.lines, line.1 = .caller ∨ IsTold relay line
  dials : ∀ dial ∈ relay.dials, IsAimed relay dial

theorem Orderly.perform (h : Orderly relay) (surroundings : Surroundings σ) (move : Move) :
    Orderly (relay.perform surroundings move) := by
  have hextends : Extends relay (relay.perform surroundings move) := run_extends h.wellformed [move]
  have haccords : Accords relay (relay.perform surroundings move) :=
    accords_run surroundings h.wellformed [move]
  have haccounted : Wellformed (relay.perform surroundings move) ∧
      IsAccounted (relay.perform surroundings move) :=
    perform_invariant h.wellformed (fun _ _ _ change accounted => change.isAccounted accounted)
      h.accounted
  refine ⟨haccounted.1, haccounted.2, ?_, ?_⟩
  · refine (haccords.lines.imp fun _ => .inr).forall_mem fun line hmem => ?_
    exact (h.lines line hmem).imp_right hextends.isTold
  · exact haccords.dials.forall_mem fun dial hmem => hextends.isAimed (h.dials dial hmem)

theorem Follows.orderly (h : Follows surroundings start relay) (orderly : Orderly start) :
    Orderly relay := by
  induction h with
  | refl => exact orderly
  | moved _ move ih => exact ih.perform surroundings move
  | busied _ remote events ih =>
      exact ⟨⟨ih.wellformed.apart, ih.wellformed.attached⟩, ih.accounted, ih.lines, ih.dials⟩
  | spoke _ line ih =>
      refine ⟨⟨ih.wellformed.apart, ih.wellformed.attached⟩, ih.accounted, ?_, ih.dials⟩
      intro entry hmem
      rcases List.mem_append.1 hmem with hold | hnew
      · exact ih.lines entry hold
      · exact .inl (by rw [List.mem_singleton.1 hnew])

/-- A relay to which something has happened since it was idle. -/
def Arises (surroundings : Surroundings σ) (relay : Relay σ) : Prop :=
  ∃ reachable remote, Follows surroundings (idle reachable remote) relay

theorem Arises.orderly (h : Arises surroundings relay) : Orderly relay := by
  rcases h with ⟨reachable, remote, hfollows⟩
  exact hfollows.orderly ⟨.idle reachable remote, .idle reachable remote, nofun, nofun⟩

/-- The worker of a tunnel that is not there has said nothing. -/
theorem Orderly.silent (h : Orderly relay) : relay.said (.worker relay.tunnels.length) = [] := by
  rw [said, List.map_eq_nil_iff, List.filter_eq_nil_iff]
  intro line hmem own
  have hactor : line.1 = .worker relay.tunnels.length := of_decide_eq_true own
  rcases h.lines line hmem with hcaller | ⟨index, there, hown, -⟩
  · cases hactor.symm.trans hcaller
  · rw [hactor] at hown
    exact Nat.lt_irrefl _ (isFor_unique hown (isFor_worker relay _) ▸ there)

end Relay

end Readiness
