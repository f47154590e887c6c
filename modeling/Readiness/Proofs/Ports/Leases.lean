import Mathlib.Data.List.Nodup
import Readiness.Ports

/-!
# Leases — the claims of a registry are its live leases

A lease is alive from the claim of its port until it is dropped, so the fixed binds under way hold
leases too.

* `Ports.Reachable` is the least set of states that contains the empty registry and is closed under
  all moves, whatever the host answers;
* `Ports.Change` has one rule for each effect of a move on the leases: none, a new one, or one less;
* `Ports.Consistent`: every claimed port belongs to exactly one live lease, and conversely;
* `Ports.claims_are_live_leases`: reachable states are consistent, and a bind that fails takes no
  claim from another holder and leaves none of its own.
-/

namespace Readiness

namespace Ports

/-- The live leases: those of the fixed binds under way and those that binds returned. -/
def holders (ports : Ports) : List Grant := ports.pending ++ ports.leases

/-- The states that moves lead to. -/
inductive Reachable : Ports → Prop where
  | empty : Reachable .empty
  | move {ports : Ports} (move : Move) : Reachable ports → Reachable (ports.perform move).2

/-- The ticket of the bind that the host answers, when this bind holds a lease already. -/
def Move.own? : Move → Option Nat
  | .answerFixed ticket _ => some ticket
  | _ => none

/-- Every claim belongs to one live lease. -/
structure Consistent (ports : Ports) : Prop where
  claims : ports.claimed.Perm (ports.holders.map (·.port))
  distinct : ports.claimed.Nodup
  tickets : (ports.holders.map (·.ticket)).Nodup
  fresh : ∀ lease ∈ ports.holders, lease.ticket < ports.nextTicket

/-- The effects of a move on the live leases and their claims. -/
inductive Change (before after : Ports) : Prop where
  | kept
      (claimed : after.claimed = before.claimed)
      (holders : after.holders.Perm before.holders)
      (next : after.nextTicket = before.nextTicket)
  | taken (lease : Grant)
      (ticket : lease.ticket = before.nextTicket)
      (free : lease.port ∉ before.claimed)
      (claimed : after.claimed = lease.port :: before.claimed)
      (holders : after.holders.Perm (lease :: before.holders))
      (next : after.nextTicket = before.nextTicket + 1)
  | released (lease : Grant)
      (claimed : after.claimed = before.claimed.filter (· != lease.port))
      (holders : before.holders.Perm (lease :: after.holders))
      (next : after.nextTicket = before.nextTicket)

/-! ## Tickets -/

theorem isClaimed_iff {ports : Ports} {port : Nat} :
    ports.isClaimed port = true ↔ port ∈ ports.claimed := by
  simp [isClaimed]

theorem mem_of_grant? {grants : List Grant} {ticket : Nat} {grant : Grant}
    (h : grant? grants ticket = some grant) : grant ∈ grants ∧ grant.ticket = ticket := by
  have hticket := List.find?_some h
  exact ⟨List.mem_of_find?_eq_some h, of_decide_eq_true hticket⟩

/-- Distinct tickets tell grants apart. -/
theorem grant?_of_mem {grants : List Grant} {grant : Grant}
    (tickets : (grants.map (·.ticket)).Nodup) (h : grant ∈ grants) :
    grant? grants grant.ticket = some grant := by
  have hsome : (grant? grants grant.ticket).isSome := List.find?_isSome.2 ⟨grant, h, by simp⟩
  rcases Option.isSome_iff_exists.1 hsome with ⟨found, hfound⟩
  rcases mem_of_grant? hfound with ⟨hmem, hticket⟩
  rw [hfound, List.inj_on_of_nodup_map tickets hmem h hticket]

theorem without_of_forall_ne {grants : List Grant} {ticket : Nat}
    (h : ∀ grant ∈ grants, grant.ticket ≠ ticket) : without grants ticket = grants := by
  rw [without, List.filter_eq_self]
  intro grant hmem
  simpa using h grant hmem

theorem mem_without {grants : List Grant} {ticket : Nat} {grant : Grant} :
    grant ∈ without grants ticket ↔ grant ∈ grants ∧ grant.ticket ≠ ticket := by
  simp [without]

/-- Of grants with distinct tickets, looking one up and leaving it out splits it off. -/
theorem perm_cons_without {grants : List Grant} {ticket : Nat} {grant : Grant}
    (tickets : (grants.map (·.ticket)).Nodup) (h : grant? grants ticket = some grant) :
    grants.Perm (grant :: without grants ticket) := by
  induction grants with
  | nil => cases h
  | cons first rest ih =>
      rw [List.map_cons, List.nodup_cons] at tickets
      by_cases hfirst : first.ticket = ticket
      · -- The first grant is the one; no other has its ticket.
        have hgrant : first = grant := by
          simpa [grant?, hfirst] using h
        have hrest : without rest ticket = rest := by
          refine without_of_forall_ne fun other hmem heq => tickets.1 ?_
          rw [hfirst, ← heq]
          exact List.mem_map_of_mem hmem
        have hdrop : without (first :: rest) ticket = without rest ticket := by
          simp [without, hfirst]
        rw [hdrop, hrest, hgrant]
      · -- The grant is among the others, and the first one stays.
        have hrest : grant? rest ticket = some grant := by
          simpa [grant?, hfirst] using h
        have hkeep : without (first :: rest) ticket = first :: without rest ticket := by
          simp [without, hfirst]
        rw [hkeep]
        exact ((ih tickets.2 hrest).cons first).trans (.swap grant first _)

/-! ## One move -/

namespace Consistent

variable {ports : Ports}

theorem empty : Consistent .empty where
  claims := .nil
  distinct := .nil
  tickets := .nil
  fresh := by simp [holders, Ports.empty]

theorem isClaimed_iff_lease (h : Consistent ports) (port : Nat) :
    ports.isClaimed port = true ↔ ∃ lease ∈ ports.holders, lease.port = port := by
  rw [isClaimed_iff, h.claims.mem_iff, List.mem_map]

theorem pairwise_ports (h : Consistent ports) :
    ports.holders.Pairwise (fun a b => a.port ≠ b.port) :=
  List.pairwise_map.1 (h.claims.nodup h.distinct)

theorem size_eq (h : Consistent ports) : ports.size = ports.holders.length := by
  rw [size, h.claims.length_eq, List.length_map]

theorem isEmpty_iff (h : Consistent ports) : ports.isEmpty = true ↔ ports.holders = [] := by
  rw [isEmpty, List.isEmpty_iff_length_eq_zero, ← List.length_eq_zero_iff]
  exact h.size_eq ▸ Iff.rfl

theorem pending_tickets (h : Consistent ports) : (ports.pending.map (·.ticket)).Nodup :=
  h.tickets.sublist ((List.sublist_append_left _ _).map _)

theorem lease_tickets (h : Consistent ports) : (ports.leases.map (·.ticket)).Nodup :=
  h.tickets.sublist ((List.sublist_append_right _ _).map _)

/-- Consistency survives every change of the leases. -/
theorem change {after : Ports} (h : Consistent ports) (step : Change ports after) :
    Consistent after := by
  cases step with
  | kept claimed holders next =>
      constructor
      · rw [claimed]
        exact h.claims.trans (holders.map _).symm
      · rw [claimed]
        exact h.distinct
      · exact (holders.map _).symm.nodup h.tickets
      · intro lease hmem
        rw [next]
        exact h.fresh lease (holders.mem_iff.1 hmem)
  | taken lease ticket free claimed holders next =>
      -- The new ticket is beyond those of the live leases.
      have hfresh : lease.ticket ∉ ports.holders.map (·.ticket) := by
        rw [ticket]
        intro hmem
        rcases List.mem_map.1 hmem with ⟨other, hother, heq⟩
        exact absurd (h.fresh other hother) (by omega)
      constructor
      · rw [claimed]
        exact (h.claims.cons _).trans (holders.map _).symm
      · rw [claimed]
        exact List.nodup_cons.2 ⟨free, h.distinct⟩
      · exact (holders.map _).symm.nodup (List.nodup_cons.2 ⟨hfresh, h.tickets⟩)
      · intro other hmem
        rw [next]
        rcases List.mem_cons.1 (holders.mem_iff.1 hmem) with rfl | hother
        · omega
        · exact Nat.lt_succ_of_lt (h.fresh other hother)
  | released lease claimed holders next =>
      have hclaims : ports.claimed.Perm (lease.port :: after.holders.map (·.port)) :=
        h.claims.trans (holders.map _)
      -- Ports are distinct, so releasing this one takes no claim from another lease.
      have hport : lease.port ∉ after.holders.map (·.port) :=
        (List.nodup_cons.1 (hclaims.nodup h.distinct)).1
      constructor
      · rw [claimed]
        have hfilter := hclaims.filter (· != lease.port)
        have hself : (after.holders.map (·.port)).filter (· != lease.port) =
            after.holders.map (·.port) := by
          rw [List.filter_eq_self]
          intro port hmem
          simpa using fun heq : port = lease.port => hport (heq ▸ hmem)
        simpa [hself] using hfilter
      · rw [claimed]
        exact h.distinct.sublist List.filter_sublist
      · exact (List.nodup_cons.1 ((holders.map _).nodup h.tickets)).2
      · intro other hmem
        rw [next]
        exact h.fresh other (holders.mem_iff.2 (List.mem_cons_of_mem _ hmem))

end Consistent

theorem Change.refl (ports : Ports) : Change ports ports := .kept rfl (.refl _) rfl

theorem startFixed_change {ports after : Ports} {port : Nat} {grant : Grant}
    (h : ports.startFixed port = .ok (grant, after)) : Change ports after := by
  unfold startFixed at h
  split at h
  · cases h
  · rename_i hfree
    cases h
    exact .taken ⟨ports.nextTicket, port⟩ rfl (fun hmem => hfree (isClaimed_iff.2 hmem)) rfl
      (.refl _) rfl

theorem cancel_change {ports : Ports} (h : Consistent ports) (ticket : Nat) :
    Change ports (ports.cancel ticket) := by
  cases hgrant : grant? ports.pending ticket with
  | none =>
      have hcancel : ports.cancel ticket = ports := by simp only [cancel, hgrant]
      rw [hcancel]
      exact .refl ports
  | some grant =>
      have hperm := perm_cons_without h.pending_tickets hgrant
      simp only [cancel, hgrant]
      exact .released grant rfl (hperm.append_right _) rfl

theorem answerFixed_change {ports : Ports} (h : Consistent ports) (ticket : Nat) (granted : Bool) :
    Change ports (ports.answerFixed ticket granted).2 := by
  cases hgrant : grant? ports.pending ticket with
  | none =>
      simp only [answerFixed, hgrant]
      exact .refl ports
  | some grant =>
      cases granted with
      | true =>
          -- The lease of the bind under way becomes one of those that binds returned.
          have hperm := perm_cons_without h.pending_tickets hgrant
          simp only [answerFixed, hgrant, if_true]
          exact .kept rfl (List.perm_middle.trans (hperm.symm.append_right _)) rfl
      | false =>
          simpa [answerFixed, hgrant] using cancel_change h ticket

theorem answerFree_change (ports : Ports) (choice : Choice) :
    Change ports (ports.answerFree choice).2 := by
  cases choice with
  | refused => exact .refl ports
  | unnamed reason => exact .refl ports
  | port port =>
      cases hclaimed : ports.isClaimed port with
      | true =>
          -- The claim of the other holder is not touched.
          simp only [answerFree, hclaimed, if_true]
          exact .refl ports
      | false =>
          have hfree : port ∉ ports.claimed := by
            rw [← isClaimed_iff, hclaimed]
            exact Bool.false_ne_true
          simp only [answerFree, hclaimed, Bool.false_eq_true, if_false]
          exact .taken ⟨ports.nextTicket, port⟩ rfl hfree rfl List.perm_middle rfl

theorem begin_change (ports : Ports) (request : Option Nat) :
    Change ports (ports.begin request).2 := by
  cases hport : fixed? request with
  | none =>
      simp only [begin, hport]
      exact .refl ports
  | some port =>
      cases hstart : ports.startFixed port with
      | error error =>
          simp only [begin, hport, hstart]
          exact .refl ports
      | ok started =>
          simp only [begin, hport, hstart]
          exact startFixed_change hstart

theorem dropLease_change {ports : Ports} (h : Consistent ports) (ticket : Nat) :
    Change ports (ports.dropLease ticket) := by
  cases hgrant : grant? ports.leases ticket with
  | none =>
      have hdrop : ports.dropLease ticket = ports := by simp only [dropLease, hgrant]
      rw [hdrop]
      exact .refl ports
  | some grant =>
      have hperm := perm_cons_without h.lease_tickets hgrant
      simp only [dropLease, hgrant]
      exact .released grant rfl ((hperm.append_left _).trans List.perm_middle) rfl

theorem perform_change {ports : Ports} (h : Consistent ports) (move : Move) :
    Change ports (ports.perform move).2 := by
  cases move with
  | begin request => exact begin_change ports request
  | answerFixed ticket granted => exact answerFixed_change h ticket granted
  | answerFree choice => exact answerFree_change ports choice
  | cancel ticket => exact cancel_change h ticket
  | dropLease ticket => exact dropLease_change h ticket
  | dropListener ticket => exact .kept rfl (.refl _) rfl
  | occupy port =>
      simp only [perform, occupy]
      split
      · exact .refl ports
      · exact .kept rfl (.refl _) rfl
  | vacate port =>
      simp only [perform, vacate]
      split
      · exact .kept rfl (.refl _) rfl
      · exact .refl ports

/-! ## Leases that begin and end -/

theorem isClaimed_release {ports : Ports} {port other : Nat} :
    (ports.release port).isClaimed other = true ↔ ports.isClaimed other = true ∧ other ≠ port := by
  simp [isClaimed_iff, release]

theorem isClaimed_cancel {ports : Ports} (h : Consistent ports) {lease : Grant}
    (hmem : lease ∈ ports.pending) (port : Nat) :
    (ports.cancel lease.ticket).isClaimed port = true ↔
      ports.isClaimed port = true ∧ port ≠ lease.port := by
  have hgrant := grant?_of_mem h.pending_tickets hmem
  simp only [cancel, hgrant]
  exact isClaimed_release

theorem isClaimed_dropLease {ports : Ports} (h : Consistent ports) {lease : Grant}
    (hmem : lease ∈ ports.leases) (port : Nat) :
    (ports.dropLease lease.ticket).isClaimed port = true ↔
      ports.isClaimed port = true ∧ port ≠ lease.port := by
  have hgrant := grant?_of_mem h.lease_tickets hmem
  simp only [dropLease, hgrant]
  exact isClaimed_release

theorem begin_of_unclaimed {ports : Ports} {request : Option Nat} {port : Nat}
    (hport : fixed? request = some port) (free : ports.isClaimed port = false) :
    ∃ after, ports.begin request = (.ok (), after) ∧ ∃ lease ∈ after.pending, lease.port = port := by
  simp only [begin, hport, startFixed, free, Bool.false_eq_true, if_false]
  exact ⟨_, rfl, _, List.mem_cons_self, rfl⟩

theorem answerFree_of_unclaimed {ports : Ports} {port : Nat} (free : ports.isClaimed port = false) :
    ∃ after, ports.perform (.answerFree (.port port)) = (.ok (), after) ∧
      ∃ lease ∈ after.leases, lease.port = port := by
  simp only [perform, answerFree, free, Bool.false_eq_true, if_false]
  exact ⟨_, rfl, _, List.mem_cons_self, rfl⟩

/-! ## Binds that fail -/

theorem begin_of_error {ports after : Ports} {request : Option Nat} {error : Error}
    (h : ports.begin request = (.error error, after)) : after = ports := by
  unfold begin at h
  split at h
  · cases h
  · split at h
    · cases h
    · cases h
      rfl

theorem answerFree_of_error {ports after : Ports} {choice : Choice} {error : Error}
    (h : ports.answerFree choice = (.error error, after)) : after = ports := by
  unfold answerFree at h
  split at h
  · cases h
    rfl
  · cases h
    rfl
  · split at h
    · cases h
      rfl
    · cases h

theorem answerFixed_of_error {ports after : Ports} {ticket : Nat} {granted : Bool} {error : Error}
    (h : ports.answerFixed ticket granted = (.error error, after)) :
    after = ports.cancel ticket ∧ ∃ grant, grant? ports.pending ticket = some grant := by
  unfold answerFixed at h
  split at h
  · cases h
  · rename_i grant hgrant
    split at h
    · cases h
    · cases h
      exact ⟨rfl, grant, hgrant⟩

/-- Giving up a bind under way ends its lease and no other. -/
theorem mem_holders_cancel {ports : Ports} (h : Consistent ports) {ticket : Nat} {grant : Grant}
    (hgrant : grant? ports.pending ticket = some grant) (lease : Grant) :
    lease ∈ (ports.cancel ticket).holders ↔ lease ∈ ports.holders ∧ lease.ticket ≠ ticket := by
  have hcancel : (ports.cancel ticket).holders = without ports.pending ticket ++ ports.leases := by
    simp only [cancel, hgrant, holders, release]
  have hperm : ports.holders.Perm (grant :: (ports.cancel ticket).holders) := by
    rw [hcancel]
    exact (perm_cons_without h.pending_tickets hgrant).append_right _
  have htickets := (List.nodup_cons.1 ((hperm.map (·.ticket)).nodup h.tickets)).1
  rcases mem_of_grant? hgrant with ⟨-, hticket⟩
  -- The lease that ends is the only one with this ticket.
  rw [hperm.mem_iff, List.mem_cons]
  constructor
  · intro hmem
    refine ⟨.inr hmem, fun heq => htickets ?_⟩
    exact List.mem_map.2 ⟨lease, hmem, heq.trans hticket.symm⟩
  · rintro ⟨rfl | hmem, hne⟩
    · exact absurd hticket hne
    · exact hmem

/-- A move by which a bind fails ends the lease of this bind, if it holds one, and no other. -/
theorem mem_holders_of_error {ports after : Ports} (h : Consistent ports) {move : Move}
    {error : Error} (failed : ports.perform move = (.error error, after)) (lease : Grant) :
    lease ∈ after.holders ↔ lease ∈ ports.holders ∧ move.own? ≠ some lease.ticket := by
  cases move with
  | begin request =>
      rw [begin_of_error failed]
      simp [Move.own?]
  | answerFixed ticket granted =>
      rcases answerFixed_of_error failed with ⟨rfl, grant, hgrant⟩
      rw [mem_holders_cancel h hgrant]
      simp [Move.own?, eq_comm]
  | answerFree choice =>
      cases hanswer : ports.answerFree choice with
      | mk result final =>
          cases result with
          | ok grant =>
              simp only [perform, hanswer] at failed
              cases failed
          | error other =>
              simp only [perform, hanswer] at failed
              cases failed
              rw [answerFree_of_error hanswer]
              simp [Move.own?]
  | cancel ticket => cases failed
  | dropLease ticket => cases failed
  | dropListener ticket => cases failed
  | occupy port => cases failed
  | vacate port => cases failed

/-- A fixed bind that is given up right after its beginning leaves the registry as it was. -/
theorem cancel_startFixed {ports started : Ports} (h : Consistent ports) {port : Nat}
    {grant : Grant} (hstart : ports.startFixed port = .ok (grant, started)) :
    (started.cancel grant.ticket).claimed = ports.claimed ∧
      (started.cancel grant.ticket).holders = ports.holders := by
  unfold startFixed at hstart
  split at hstart
  · cases hstart
  · rename_i hclaimed
    have hfree : port ∉ ports.claimed := fun hmem => hclaimed (isClaimed_iff.2 hmem)
    -- Neither the ticket nor the port of the new lease occurs among the others.
    have hpending : without ports.pending ports.nextTicket = ports.pending := by
      refine without_of_forall_ne fun other hmem => ?_
      exact Nat.ne_of_lt (h.fresh other (List.mem_append_left _ hmem))
    have hclaims : ports.claimed.filter (· != port) = ports.claimed := by
      rw [List.filter_eq_self]
      intro other hmem
      simpa using fun heq : other = port => hfree (heq ▸ hmem)
    cases hstart
    constructor
    · simp [cancel, grant?, release, claim, hclaims]
    · have hwithout : without (⟨ports.nextTicket, port⟩ :: ports.pending) ports.nextTicket =
          ports.pending := by
        rw [without, List.filter_cons_of_neg (by simp)]
        exact hpending
      simp [cancel, grant?, release, claim, holders, hwithout]

/-- A bind that fails leaves the claims and the leases as they were. -/
theorem bind_of_error {ports after : Ports} (h : Consistent ports) {request : Option Nat}
    {host : Host} {error : Error} (failed : ports.bind request host = (.error error, after)) :
    after.claimed = ports.claimed ∧ after.holders = ports.holders := by
  unfold bind at failed
  split at failed
  · rw [answerFree_of_error failed]
    exact ⟨rfl, rfl⟩
  · split at failed
    · cases failed
      exact ⟨rfl, rfl⟩
    · -- The port was claimed before the host refused it.
      rename_i port _ _ grant started hstart
      split at failed
      · cases failed
      · rename_i _ other final hanswer
        cases failed
        rcases answerFixed_of_error hanswer with ⟨rfl, -⟩
        exact cancel_startFixed h hstart

/-! ## Runs of moves -/

theorem Reachable.consistent {ports : Ports} (h : Reachable ports) : Consistent ports := by
  induction h with
  | empty => exact .empty
  | move move _ ih => exact ih.change (perform_change ih move)

/-- A bind without a pause is a run of moves. -/
theorem Reachable.bind {ports : Ports} (h : Reachable ports) (request : Option Nat) (host : Host) :
    Reachable (ports.bind request host).2 := by
  unfold Ports.bind
  cases hport : fixed? request with
  | none =>
      have hmove := h.move (.answerFree (ports.possible host.choice))
      simpa only [perform] using hmove
  | some port =>
      have hbegin := h.move (.begin request)
      cases hstart : ports.startFixed port with
      | error error =>
          simp only [hstart]
          exact h
      | ok started =>
          -- The bind begins and the host answers at once.
          rcases started with ⟨grant, after⟩
          simp only [perform, begin, hport, hstart] at hbegin
          have hanswer := hbegin.move
            (.answerFixed grant.ticket (host.grants && !after.isBound port))
          simp only [perform] at hanswer
          simp only [hstart]
          cases hresult : after.answerFixed grant.ticket (host.grants && !after.isBound port) with
          | mk result final =>
              rw [hresult] at hanswer
              cases result with
              | ok _ => exact hanswer
              | error _ => exact hanswer

/-- In every reachable state the claimed ports are exactly those of the live leases, which all have
different ports, so that the views of the registry count them. A move by which a bind fails leaves
the claims of all other leases and none of its own, and a bind without a pause that fails, whatever
the host answers, changes no claim at all. A bind of a port that is not claimed takes a lease of it,
and giving a lease up ends its claim and no other. -/
theorem claims_are_live_leases {ports : Ports} (reachable : Reachable ports) :
    (∀ port, ports.isClaimed port = true ↔ ∃ lease ∈ ports.holders, lease.port = port) ∧
      ports.holders.Pairwise (fun a b => a.port ≠ b.port) ∧
      ports.size = ports.holders.length ∧
      (ports.isEmpty = true ↔ ports.holders = []) ∧
      (∀ move error after, ports.perform move = (.error error, after) → ∀ port,
        (after.isClaimed port = true ↔
          ∃ lease ∈ ports.holders, lease.port = port ∧ move.own? ≠ some lease.ticket)) ∧
      (∀ request host error after, ports.bind request host = (.error error, after) →
        after.claimed = ports.claimed ∧ after.holders = ports.holders) ∧
      (∀ request port, fixed? request = some port → ports.isClaimed port = false →
        ∃ after, ports.perform (.begin request) = (.ok (), after) ∧
          ∃ lease ∈ after.pending, lease.port = port) ∧
      (∀ port, ports.isClaimed port = false →
        ∃ after, ports.perform (.answerFree (.port port)) = (.ok (), after) ∧
          ∃ lease ∈ after.leases, lease.port = port) ∧
      (∀ lease ∈ ports.pending, ∀ port, (ports.cancel lease.ticket).isClaimed port = true ↔
        ports.isClaimed port = true ∧ port ≠ lease.port) ∧
      (∀ lease ∈ ports.leases, ∀ port, (ports.dropLease lease.ticket).isClaimed port = true ↔
        ports.isClaimed port = true ∧ port ≠ lease.port) := by
  have h := reachable.consistent
  refine ⟨h.isClaimed_iff_lease, h.pairwise_ports, h.size_eq, h.isEmpty_iff, ?_, ?_, ?_, ?_, ?_, ?_⟩
  · intro move error after failed port
    -- The claims after the move are the leases after it, of which the lemma above tells.
    have hafter : Consistent after := by
      have hnext := (reachable.move move).consistent
      rwa [failed] at hnext
    rw [hafter.isClaimed_iff_lease]
    constructor
    · rintro ⟨lease, hmem, hlease⟩
      rcases (mem_holders_of_error h failed lease).1 hmem with ⟨hbefore, hown⟩
      exact ⟨lease, hbefore, hlease, hown⟩
    · rintro ⟨lease, hbefore, hlease, hown⟩
      exact ⟨lease, (mem_holders_of_error h failed lease).2 ⟨hbefore, hown⟩, hlease⟩
  · intro request host error after failed
    exact bind_of_error h failed
  · intro request port hport free
    exact begin_of_unclaimed hport free
  · intro port free
    exact answerFree_of_unclaimed free
  · intro lease hmem port
    exact isClaimed_cancel h hmem port
  · intro lease hmem port
    exact isClaimed_dropLease h hmem port

/-- A lease of port 8080, a bind of port 9000 under way and a lease of a port that the host
chose. -/
def threeHolders : Ports :=
  (((Ports.empty.bind (some 8080) (.choosing 49152)).2.perform (.begin (some 9000))).2.perform
    (.answerFree (.port 50000))).2

/-- When the host refuses port 9000, its claim ends and the other two stay. -/
theorem threeHolders_keeps_others :
    Reachable threeHolders ∧ threeHolders.size = 3 ∧
      threeHolders.perform (.answerFixed 1 false) =
        (.error (bindFailed 9000), threeHolders.cancel 1) ∧
      (threeHolders.cancel 1).isClaimed 8080 = true ∧
      ¬ (threeHolders.cancel 1).isClaimed 9000 = true := by
  have reachable : Reachable threeHolders := ((Reachable.empty.bind (some 8080) _).move _).move _
  rcases claims_are_live_leases reachable with ⟨-, -, hsize, -, hfailed, -⟩
  have hrefused : threeHolders.perform (.answerFixed 1 false) =
      (.error (bindFailed 9000), threeHolders.cancel 1) := rfl
  have hafter := hfailed _ _ _ hrefused
  refine ⟨reachable, hsize.trans rfl, hrefused, (hafter 8080).2 ?_, fun hclaimed => ?_⟩
  · exact ⟨⟨0, 8080⟩, by decide, rfl, by decide⟩
  · rcases (hafter 9000).1 hclaimed with ⟨lease, hmem, hport, hown⟩
    have hholders : threeHolders.holders = [⟨1, 9000⟩, ⟨2, 50000⟩, ⟨0, 8080⟩] := by decide
    simp [hholders] at hmem
    rcases hmem with rfl | rfl | rfl
    · exact hown rfl
    · cases hport
    · cases hport

end Ports

end Readiness
