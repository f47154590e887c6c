import Readiness.Proofs.Tunnel.Runs

/-!
# Ledger — which tunnel holds which lease

* `Relay.live` are the grants of the tunnels whose worker has not ended;
* `Relay.Accounted` and `Relay.IsAccounted`: the leases are exactly these and the ones held for their
  own sake, tickets are issued once, and a tunnel listens as long as its worker has not ended;
* `Relay.isAccounted_run`: this holds in every run, so that a tunnel listens and holds its lease as
  long as its worker goes on.
-/

namespace Readiness

namespace Relay

variable {σ : Type}

/-- The grants of the entries of a ledger that are not marked as ended. -/
def live (ledger : List (Grant × Bool)) : List Grant := (ledger.filter (!·.2)).map (·.1)

/-- Every lease has one holder, and tunnels listen as long as their workers go on. -/
structure Accounted (ports : Ports) (bound : List Grant) (ledger : List (Grant × Bool)) : Prop where
  consistent : ports.Consistent
  leases : ports.leases.Perm (live ledger ++ bound)
  issued : Ports.Issued ports.nextTicket (ports.pending ++ (bound ++ ledger.map (·.1)))
  listening : ∀ (index : Nat) (entry : Grant × Bool), ledger[index]? = some entry →
    (entry.1 ∈ ports.listeners ↔ entry.2 = false)

/-! ## Entries -/

section Entries

variable {ledger : List (Grant × Bool)} {index : Nat} {grant : Grant}

theorem live_append (ledger : List (Grant × Bool)) (grant : Grant) :
    live (ledger ++ [(grant, false)]) = live ledger ++ [grant] := by
  simp [live]

/-- Marking an entry takes its grant out of the live ones. -/
theorem live_perm_set (found : ledger[index]? = some (grant, false)) :
    (live ledger).Perm (grant :: live (ledger.set index (grant, true))) := by
  induction ledger generalizing index with
  | nil => cases found
  | cons entry rest ih =>
      cases index with
      | zero =>
          cases found
          exact .refl _
      | succ index =>
          have hrest := ih (by simpa using found)
          cases hmark : entry.2 with
          | true => simpa [live, List.set_cons_succ, hmark] using hrest
          | false =>
              have hswap := (hrest.cons entry.1).trans (.swap grant entry.1 _)
              simpa [live, List.set_cons_succ, hmark] using hswap

theorem map_fst_set (found : ledger[index]? = some (grant, false)) :
    (ledger.set index (grant, true)).map (·.1) = ledger.map (·.1) :=
  map_set_of_eq found rfl

/-- Different entries have different tickets. -/
theorem ticket_ne_of_ne {other : Nat} {a b : Grant × Bool}
    (tickets : ((ledger.map (·.1)).map (·.ticket)).Nodup) (ha : ledger[index]? = some a)
    (hb : ledger[other]? = some b) (hne : index ≠ other) : a.1.ticket ≠ b.1.ticket := by
  intro heq
  have hindex : ((ledger.map (·.1)).map (·.ticket))[index]? = some a.1.ticket := by simp [ha]
  have hother : ((ledger.map (·.1)).map (·.ticket))[other]? = some a.1.ticket := by simp [hb, heq]
  have hlt := (List.getElem?_eq_some_iff.1 hindex).1
  exact hne ((List.getElem?_inj hlt tickets).1 (hindex.trans hother.symm))

end Entries

/-! ## Changes -/

namespace Accounted

variable {ports after : Ports} {bound : List Grant} {ledger : List (Grant × Bool)} {grant : Grant}

theorem tickets (h : Accounted ports bound ledger) :
    ((ledger.map (·.1)).map (·.ticket)).Nodup :=
  (h.issued.sublist ((List.sublist_append_right _ _).trans
    (List.sublist_append_right _ _))).distinct

/-- A grant that is taken has another ticket than all that are held or in the ledger. -/
theorem ticket_ne_of_takes (h : Accounted ports bound ledger) (takes : ports.Takes grant after)
    {other : Grant} (hmem : other ∈ bound ++ ledger.map (·.1)) : other.ticket ≠ grant.ticket := by
  have htickets := (h.issued.takes takes).distinct
  rw [List.map_append, List.map_cons] at htickets
  have hhead := (List.nodup_cons.1 (List.nodup_append.1 htickets).2.1).1
  exact fun heq => hhead (heq ▸ List.mem_map_of_mem hmem)

/-- A grant that is taken is not yet in the ledger. -/
theorem notMem_of_takes (h : Accounted ports bound ledger) (takes : ports.Takes grant after) :
    grant ∉ ledger.map (·.1) := by
  exact fun hmem => h.ticket_ne_of_takes takes (List.mem_append_right _ hmem) rfl

/-- The entries of a ledger do not notice the listener of another grant. -/
theorem listening_takes (h : Accounted ports bound ledger) (takes : ports.Takes grant after)
    {index : Nat} {entry : Grant × Bool} (found : ledger[index]? = some entry) :
    entry.1 ∈ after.listeners ↔ entry.2 = false := by
  have hne : entry.1 ≠ grant := fun heq =>
    h.notMem_of_takes takes (heq ▸ List.mem_map_of_mem (List.mem_of_getElem? found))
  rw [takes.listeners, List.mem_cons, ← h.listening index entry found]
  exact or_iff_right hne

/-- A bind succeeds for a tunnel. -/
theorem opened (h : Accounted ports bound ledger) (takes : ports.Takes grant after) :
    Accounted after bound (ledger ++ [(grant, false)]) where
  consistent := h.consistent.takes takes
  leases := by
    rw [takes.leases, live_append, List.append_assoc]
    exact (h.leases.cons grant).trans List.perm_middle.symm
  issued := by
    refine (h.issued.takes takes).perm (List.Perm.append_left _ ?_)
    rw [List.map_append, ← List.append_assoc]
    exact (List.perm_append_singleton grant _).symm
  listening := by
    intro index entry found
    rcases List.mem_append.1 (List.mem_of_getElem? found) with hold | hnew
    · rcases List.getElem?_of_mem hold with ⟨place, hplace⟩
      exact h.listening_takes takes hplace
    · rw [List.mem_singleton.1 hnew, takes.listeners]
      exact iff_of_true List.mem_cons_self rfl

/-- A bind succeeds for a lease that is wanted for its own sake. -/
theorem leased (h : Accounted ports bound ledger) (takes : ports.Takes grant after) :
    Accounted after (grant :: bound) ledger where
  consistent := h.consistent.takes takes
  leases := by
    rw [takes.leases]
    exact (h.leases.cons grant).trans List.perm_middle.symm
  issued := h.issued.takes takes
  listening := fun _ _ found => h.listening_takes takes found

/-- The worker of a tunnel ends, and gives up its port. -/
theorem ended (h : Accounted ports bound ledger) {index : Nat}
    (found : ledger[index]? = some (grant, false)) :
    Accounted (ports.dropBoth grant.ticket) bound (ledger.set index (grant, true)) := by
  have hlive := live_perm_set found
  have hlease : grant ∈ ports.leases :=
    h.leases.mem_iff.2 (List.mem_append_left _ (hlive.mem_iff.2 List.mem_cons_self))
  have hgrant := Ports.grant?_of_mem h.consistent.lease_tickets hlease
  have hrest := Ports.perm_cons_without h.consistent.lease_tickets hgrant
  have hdrop : ports.dropBoth grant.ticket =
      { (ports.dropListener grant.ticket).release grant.port with
        leases := Ports.without ports.leases grant.ticket } := by
    simp only [Ports.dropBoth, Ports.dropLease, Ports.dropListener, hgrant, Ports.release]
  have hconsistent := h.consistent.dropBoth grant.ticket
  rw [hdrop] at hconsistent ⊢
  constructor
  · exact hconsistent
  · exact (hrest.symm.trans (h.leases.trans (hlive.append_right bound))).cons_inv
  · rw [map_fst_set found]
    exact h.issued
  · intro other entry hentry
    refine Ports.mem_without.trans ?_
    by_cases heq : index = other
    · subst heq
      rw [List.getElem?_set_self (List.getElem?_eq_some_iff.1 found).1] at hentry
      cases hentry
      simp
    · rw [List.getElem?_set_ne heq] at hentry
      have hticket := (ticket_ne_of_ne h.tickets found hentry heq).symm
      rw [← h.listening other entry hentry]
      exact and_iff_left hticket

theorem released (h : Accounted ports bound ledger) (held : grant ∈ bound) :
    Accounted (ports.dropLease grant.ticket) (bound.filter (·.ticket != grant.ticket)) ledger := by
  have hlease : grant ∈ ports.leases := h.leases.mem_iff.2 (List.mem_append_right _ held)
  have hgrant := Ports.grant?_of_mem h.consistent.lease_tickets hlease
  have hrest := Ports.perm_cons_without h.consistent.lease_tickets hgrant
  have htickets : (bound.map (·.ticket)).Nodup :=
    (h.issued.sublist ((List.sublist_append_left _ _).trans (List.sublist_append_right _ _))).distinct
  have hbound := Ports.perm_cons_without htickets (Ports.grant?_of_mem htickets held)
  have hdrop : ports.dropLease grant.ticket =
      { ports.release grant.port with leases := Ports.without ports.leases grant.ticket } := by
    simp only [Ports.dropLease, hgrant]
  have hconsistent := h.consistent.perform (.dropLease grant.ticket)
  simp only [Ports.perform] at hconsistent
  rw [hdrop] at hconsistent ⊢
  constructor
  · exact hconsistent
  · have hsplit := hrest.symm.trans (h.leases.trans (hbound.append_left (live ledger)))
    exact (hsplit.trans List.perm_middle).cons_inv
  · exact h.issued.sublist ((List.filter_sublist.append_right _).append_left _)
  · exact h.listening

/-- The host closes a listener that belongs to no tunnel. -/
theorem hungUp (h : Accounted ports bound ledger) {ticket : Nat}
    (free : ∀ entry ∈ ledger, entry.1.ticket ≠ ticket) :
    Accounted (ports.dropListener ticket) bound ledger where
  consistent := h.consistent.perform (.dropListener ticket)
  leases := h.leases
  issued := h.issued
  listening := by
    intro index entry found
    rw [← h.listening index entry found]
    exact Ports.mem_without.trans (and_iff_left (free entry (List.mem_of_getElem? found)))

/-- A bind succeeds, but the host does not tell the address of the listener: it hangs up, and the
lease is given up. -/
theorem lost (h : Accounted ports bound ledger) (takes : ports.Takes grant after) :
    Accounted (after.dropBoth grant.ticket) bound ledger := by
  have hledger : ∀ entry ∈ ledger, entry.1.ticket ≠ grant.ticket := fun entry hmem =>
    h.ticket_ne_of_takes takes (List.mem_append_right _ (List.mem_map_of_mem hmem))
  have hbound : (grant :: bound).filter (·.ticket != grant.ticket) = bound := by
    rw [List.filter_cons_of_neg (by simp)]
    exact Ports.without_of_forall_ne fun other hmem =>
      h.ticket_ne_of_takes takes (List.mem_append_left _ hmem)
  have hreleased := ((h.leased takes).hungUp hledger).released List.mem_cons_self
  rwa [hbound] at hreleased

/-- Leases and listeners stay as they are. -/
theorem kept (h : Accounted ports bound ledger) (consistent : after.Consistent)
    (leases : after.leases = ports.leases) (listeners : after.listeners = ports.listeners)
    (issued : Ports.Issued after.nextTicket (after.pending ++ (bound ++ ledger.map (·.1)))) :
    Accounted after bound ledger where
  consistent := consistent
  leases := leases ▸ h.leases
  issued := issued
  listening := listeners ▸ h.listening

end Accounted

theorem accounted_hosting {ports after : Ports} {bound held : List Grant} {tunnels : List Tunnel}
    (hosting : Hosting ports bound tunnels after held)
    (h : Accounted ports bound (tunnels.map fun tunnel => (tunnel.grant, tunnel.isOver))) :
    Accounted after held (tunnels.map fun tunnel => (tunnel.grant, tunnel.isOver)) := by
  cases hosting with
  | begun requested =>
      have hissued := h.issued.begin requested
      have hconsistent := h.consistent.perform (.begin requested)
      simp only [Ports.perform] at hconsistent
      rcases Ports.begin_cases ports requested with hsame | ⟨grant, -, hbegun⟩
      · rw [hsame]
        exact h
      · rw [hbegun] at hissued hconsistent ⊢
        exact h.kept hconsistent rfl rfl hissued
  | cancelled ticket =>
      have hissued := h.issued.cancel ticket
      have hconsistent := h.consistent.perform (.cancel ticket)
      simp only [Ports.perform] at hconsistent
      rcases Ports.cancel_cases ports ticket with hsame | ⟨port, hcancel⟩
      · rw [hsame]
        exact h
      · rw [hcancel] at hissued hconsistent ⊢
        exact h.kept hconsistent rfl rfl hissued
  | leased takes => exact h.leased takes
  | lost takes => exact h.lost takes
  | released held => exact h.released held
  | hungUp free =>
      refine h.hungUp fun entry hmem => ?_
      rcases List.mem_map.1 hmem with ⟨tunnel, htunnel, rfl⟩
      exact free tunnel htunnel
  | occupied occupy =>
      have hconsistent := h.consistent.occupy occupy
      rcases Ports.occupy_eq_some occupy with ⟨-, rfl⟩
      exact h.kept hconsistent rfl rfl h.issued
  | vacated vacate =>
      have hconsistent := h.consistent.vacate vacate
      cases Ports.vacate_eq_some vacate
      exact h.kept hconsistent rfl rfl h.issued

/-- The account of a relay. -/
def IsAccounted (relay : Relay σ) : Prop := Accounted relay.ports relay.bound relay.ledger

theorem Change.isAccounted {surroundings : Surroundings σ} {move : Move} {before after : Relay σ}
    (change : Change surroundings move before after) (h : IsAccounted before) :
    IsAccounted after := by
  unfold IsAccounted at h ⊢
  rcases change.ledger_cases with
    ⟨hports, hbound, hledger⟩ | ⟨hosting, hledger⟩ | ⟨grant, takes, hbound, hledger⟩ |
      ⟨index, grant, found, hports, hbound, hledger⟩
  · rw [hports, hbound, hledger]
    exact h
  · rw [hledger]
    exact accounted_hosting hosting h
  · rw [hbound, hledger]
    exact h.opened takes
  · rw [hports, hbound, hledger]
    exact h.ended found

theorem IsAccounted.idle (reachable : Bool) (remote : σ) : IsAccounted (idle reachable remote) where
  consistent := .empty
  leases := .nil
  issued := ⟨.nil, by simp [Relay.idle, Ports.empty, Relay.ledger]⟩
  listening := by simp [Relay.idle, Relay.ledger]

theorem isAccounted_run (surroundings : Surroundings σ) (reachable : Bool) (remote : σ)
    (moves : List Move) : IsAccounted ((Relay.idle reachable remote).run surroundings moves) :=
  (run_invariant (.idle reachable remote) (fun _ _ _ _ _ change h => change.isAccounted h)
    (.idle reachable remote)).2

/-! ## Listeners and leases of tunnels -/

section Tunnels

variable {relay : Relay σ} {index : Nat} {tunnel : Tunnel}

namespace IsAccounted

theorem entry (found : relay.tunnels[index]? = some tunnel) :
    relay.ledger[index]? = some (tunnel.grant, tunnel.isOver) := by
  simp [ledger, found]

/-- A tunnel listens as long as its worker goes on. -/
theorem mem_listeners_iff (h : IsAccounted relay) (found : relay.tunnels[index]? = some tunnel) :
    tunnel.grant ∈ relay.ports.listeners ↔ tunnel.isOver = false :=
  h.listening index _ (entry found)

/-- A tunnel holds its lease as long as its worker goes on. -/
theorem mem_leases_iff (h : IsAccounted relay) (found : relay.tunnels[index]? = some tunnel) :
    tunnel.grant ∈ relay.ports.leases ↔ tunnel.isOver = false := by
  have hentry := entry found
  have hmem := List.mem_of_getElem? hentry
  rw [h.leases.mem_iff, List.mem_append]
  constructor
  · rintro (hlive | hbound)
    · -- The live entry with this grant is the entry of this tunnel.
      rcases List.mem_map.1 hlive with ⟨live, hfilter, hgrant⟩
      rcases List.mem_filter.1 hfilter with ⟨hlive, hmark⟩
      rcases List.getElem?_of_mem hlive with ⟨place, hplace⟩
      by_cases heq : index = place
      · subst heq
        rw [hentry] at hplace
        cases hplace
        simpa using hmark
      · exact absurd (congrArg Grant.ticket hgrant.symm)
          (ticket_ne_of_ne h.tickets hentry hplace heq)
    · -- A lease that is held for its own sake has another ticket.
      have htickets := (h.issued.sublist (List.sublist_append_right _ _)).distinct
      rw [List.map_append] at htickets
      have hledger : tunnel.grant.ticket ∈ (relay.ledger.map (·.1)).map (·.ticket) :=
        List.mem_map_of_mem (List.mem_map_of_mem hmem)
      exact absurd hledger ((List.nodup_append.1 htickets).2.2 _ (List.mem_map_of_mem hbound) _ · rfl)
  · intro going
    rw [going] at hmem
    exact .inl (List.mem_map_of_mem (List.mem_filter.2 ⟨hmem, rfl⟩))

end IsAccounted

end Tunnels

end Relay

end Readiness
