import Readiness.Proofs.Ports.Leases

/-!
# Listeners — ports are listened on once

* `Ports.Apart`: no port has two listeners, inside the registry or outside;
* `Ports.Takes` has one rule for each way in which a bind succeeds, and `Ports.answerFixed_cases` and
  `Ports.answerFree_cases` say that every answer of the host is such a success or a failure;
* `Ports.Issued`: grants have tickets that were issued once.
-/

namespace Readiness

namespace Ports

/-- Every port has one listener at most. -/
structure Apart (ports : Ports) : Prop where
  listeners : (ports.listeners.map (·.port)).Nodup
  occupied : ∀ listener ∈ ports.listeners, listener.port ∉ ports.occupied

theorem isBound_eq_false_iff {ports : Ports} {port : Nat} :
    ports.isBound port = false ↔
      port ∉ ports.occupied ∧ ∀ listener ∈ ports.listeners, listener.port ≠ port := by
  simp [isBound]

theorem isBound_of_possible {ports : Ports} {choice : Choice} {port : Nat}
    (h : ports.possible choice = .port port) : ports.isBound port = false := by
  unfold possible at h
  split at h
  · split at h
    · cases h
    · rename_i hbound
      cases h
      exact Bool.eq_false_iff.2 hbound
  · rename_i other
    exact absurd h (other port)

/-- A bind succeeds: the host grants a port that nothing listens on, either to a bind under way or to
one that leaves the choice to the host. -/
inductive Takes (ports : Ports) (grant : Grant) : Ports → Prop
  | fixed (pending : grant? ports.pending grant.ticket = some grant)
      (free : ports.isBound grant.port = false) :
      Takes ports grant
        { ports with
          pending := without ports.pending grant.ticket
          leases := grant :: ports.leases
          listeners := grant :: ports.listeners }
  | chosen (ticket : grant.ticket = ports.nextTicket)
      (unclaimed : ports.isClaimed grant.port = false)
      (free : ports.isBound grant.port = false) :
      Takes ports grant
        { ports.claim grant.port with
          leases := grant :: ports.leases
          listeners := grant :: ports.listeners
          nextTicket := ports.nextTicket + 1 }

/-- A fixed bind that begins is under way. -/
theorem startFixed_pending {ports started : Ports} {port : Nat} {grant : Grant}
    (h : ports.startFixed port = .ok (grant, started)) :
    grant? started.pending grant.ticket = some grant ∧ grant.port = port := by
  unfold startFixed at h
  split at h
  · cases h
  · cases h
    exact ⟨by simp [grant?], rfl⟩

/-- The answer to a bind under way gives it its port or ends it. -/
theorem answerFixed_cases {ports : Ports} {ticket : Nat} {grant : Grant}
    (pending : grant? ports.pending ticket = some grant) (granted : Bool)
    (free : granted = true → ports.isBound grant.port = false) :
    ((ports.answerFixed ticket granted).1 = .ok () ∧
        Takes ports grant (ports.answerFixed ticket granted).2) ∨
      (∃ error, (ports.answerFixed ticket granted).1 = .error error) ∧
        (ports.answerFixed ticket granted).2 = ports.cancel ticket := by
  have hticket : grant.ticket = ticket := (mem_of_grant? pending).2
  cases granted with
  | true =>
      left
      subst hticket
      have htakes := Takes.fixed pending (free rfl)
      simp only [answerFixed, pending, if_true]
      exact ⟨trivial, htakes⟩
  | false =>
      right
      simp only [answerFixed, pending, Bool.false_eq_true, if_false]
      exact ⟨⟨_, rfl⟩, trivial⟩

/-- The host chooses a port that nothing listens on, or the bind fails and changes nothing. -/
theorem answerFree_cases (ports : Ports) (choice : Choice) :
    (∃ grant, (ports.answerFree (ports.possible choice)).1 = .ok grant ∧
        Takes ports grant (ports.answerFree (ports.possible choice)).2) ∨
      (∃ error, (ports.answerFree (ports.possible choice)).1 = .error error) ∧
        (ports.answerFree (ports.possible choice)).2 = ports := by
  cases hchoice : ports.possible choice with
  | refused => exact .inr ⟨⟨_, rfl⟩, rfl⟩
  | unnamed reason => exact .inr ⟨⟨_, rfl⟩, rfl⟩
  | port port =>
      cases hclaimed : ports.isClaimed port with
      | true =>
          right
          simp only [answerFree, hclaimed, if_true]
          exact ⟨⟨_, rfl⟩, trivial⟩
      | false =>
          left
          have htakes : Takes ports ⟨ports.nextTicket, port⟩ _ :=
            .chosen rfl hclaimed (isBound_of_possible hchoice)
          simp only [answerFree, hclaimed, Bool.false_eq_true, if_false]
          exact ⟨_, rfl, htakes⟩

/-- A bind that begins claims a fixed port that is free, and changes nothing otherwise. -/
theorem begin_cases (ports : Ports) (requested : Option Nat) :
    (ports.begin requested).2 = ports ∨
      ∃ grant : Grant, grant.ticket = ports.nextTicket ∧ (ports.begin requested).2 =
        { ports.claim grant.port with
          pending := grant :: ports.pending, nextTicket := ports.nextTicket + 1 } := by
  cases hport : fixed? requested with
  | none =>
      simp only [Ports.begin, hport]
      exact .inl trivial
  | some port =>
      cases hclaimed : ports.isClaimed port with
      | true =>
          simp only [Ports.begin, startFixed, hport, hclaimed, if_true]
          exact .inl trivial
      | false =>
          simp only [Ports.begin, startFixed, hport, hclaimed, Bool.false_eq_true, if_false]
          exact .inr ⟨⟨ports.nextTicket, port⟩, rfl, rfl⟩

theorem cancel_cases (ports : Ports) (ticket : Nat) :
    ports.cancel ticket = ports ∨
      ∃ port, ports.cancel ticket =
        { ports.release port with pending := without ports.pending ticket } := by
  cases hgrant : grant? ports.pending ticket with
  | none =>
      simp only [cancel, hgrant]
      exact .inl trivial
  | some grant =>
      simp only [cancel, hgrant]
      exact .inr ⟨grant.port, rfl⟩

theorem occupy_eq_some {ports after : Ports} {port : Nat} (h : ports.occupy port = some after) :
    ports.isBound port = false ∧
      after = { ports with occupied := port :: ports.occupied } := by
  unfold occupy at h
  split at h
  · cases h
  · rename_i hbound
    cases h
    exact ⟨Bool.eq_false_iff.2 hbound, rfl⟩

theorem vacate_eq_some {ports after : Ports} {port : Nat} (h : ports.vacate port = some after) :
    after = { ports with occupied := ports.occupied.filter (· != port) } := by
  unfold vacate at h
  split at h
  · cases h
    rfl
  · cases h

/-! ## Giving up -/

section GivingUp

variable (ports : Ports) (ticket : Nat)

theorem dropBoth_pending : (ports.dropBoth ticket).pending = ports.pending := by
  unfold dropBoth dropLease
  split <;> rfl

theorem dropBoth_occupied : (ports.dropBoth ticket).occupied = ports.occupied := by
  unfold dropBoth dropLease
  split <;> rfl

theorem dropBoth_listeners :
    (ports.dropBoth ticket).listeners = without ports.listeners ticket := by
  unfold dropBoth dropLease
  split <;> rfl

theorem dropBoth_leases : (ports.dropBoth ticket).leases = without ports.leases ticket := by
  unfold dropBoth dropLease
  split
  · rfl
  · rename_i hnone
    refine (without_of_forall_ne fun lease hmem heq => ?_).symm
    simpa [heq] using List.find?_eq_none.1 hnone lease hmem

end GivingUp

/-! ## Listeners that come and go -/

section Listeners

variable {ports after : Ports} {grant : Grant}

theorem Apart.empty : Apart .empty where
  listeners := .nil
  occupied := by simp [Ports.empty]

/-- Listeners that go leave the others apart. -/
theorem Apart.mono (h : Apart ports) (listeners : after.listeners.Sublist ports.listeners)
    (occupied : ∀ port ∈ after.occupied, port ∈ ports.occupied) : Apart after where
  listeners := h.listeners.sublist (listeners.map _)
  occupied := fun listener hmem hoccupied =>
    h.occupied listener (listeners.subset hmem) (occupied _ hoccupied)

theorem Apart.dropListener (h : Apart ports) (ticket : Nat) : Apart (ports.dropListener ticket) :=
  h.mono List.filter_sublist fun _ hmem => hmem

theorem Apart.dropLease (h : Apart ports) (ticket : Nat) : Apart (ports.dropLease ticket) := by
  unfold Ports.dropLease
  split
  · exact h.mono (.refl _) fun _ hmem => hmem
  · exact h

theorem Apart.dropBoth (h : Apart ports) (ticket : Nat) : Apart (ports.dropBoth ticket) :=
  (h.dropListener ticket).dropLease ticket

theorem Apart.cancel (h : Apart ports) (ticket : Nat) : Apart (ports.cancel ticket) := by
  rcases cancel_cases ports ticket with hsame | ⟨port, hcancel⟩
  · rw [hsame]
    exact h
  · rw [hcancel]
    exact h.mono (.refl _) fun _ hmem => hmem

theorem Apart.begin (h : Apart ports) (requested : Option Nat) :
    Apart (ports.begin requested).2 := by
  rcases begin_cases ports requested with hsame | ⟨grant, -, hbegun⟩
  · rw [hsame]
    exact h
  · rw [hbegun]
    exact h.mono (.refl _) fun _ hmem => hmem

theorem Apart.vacate (h : Apart ports) {port : Nat} (vacate : ports.vacate port = some after) :
    Apart after := by
  rw [vacate_eq_some vacate]
  exact h.mono (.refl _) fun _ hmem => List.mem_of_mem_filter hmem

theorem Apart.occupy (h : Apart ports) {port : Nat} (occupy : ports.occupy port = some after) :
    Apart after := by
  rcases occupy_eq_some occupy with ⟨hbound, rfl⟩
  have hfree := isBound_eq_false_iff.1 hbound
  constructor
  · exact h.listeners
  · intro listener hmem hoccupied
    rcases List.mem_cons.1 hoccupied with heq | hother
    · exact hfree.2 listener hmem heq
    · exact h.occupied listener hmem hother

theorem Takes.listeners (takes : Takes ports grant after) :
    after.listeners = grant :: ports.listeners := by
  cases takes <;> rfl

theorem Takes.leases (takes : Takes ports grant after) :
    after.leases = grant :: ports.leases := by
  cases takes <;> rfl

theorem Takes.occupied (takes : Takes ports grant after) : after.occupied = ports.occupied := by
  cases takes <;> rfl

theorem Takes.free (takes : Takes ports grant after) : ports.isBound grant.port = false := by
  cases takes with
  | fixed pending free => exact free
  | chosen ticket unclaimed free => exact free

/-- A port that is taken had no listener before. -/
theorem Apart.takes (h : Apart ports) (takes : Takes ports grant after) : Apart after := by
  have hfree := isBound_eq_false_iff.1 takes.free
  constructor
  · rw [takes.listeners, List.map_cons, List.nodup_cons]
    refine ⟨fun hmem => ?_, h.listeners⟩
    rcases List.mem_map.1 hmem with ⟨listener, hlistener, heq⟩
    exact hfree.2 listener hlistener heq
  · intro listener hmem
    rw [takes.listeners] at hmem
    rw [takes.occupied]
    rcases List.mem_cons.1 hmem with rfl | hother
    · exact hfree.1
    · exact h.occupied listener hother

end Listeners

/-! ## Tickets -/

/-- Grants with different tickets, all of which were issued before the next one. -/
structure Issued (next : Nat) (grants : List Grant) : Prop where
  distinct : (grants.map (·.ticket)).Nodup
  fresh : ∀ grant ∈ grants, grant.ticket < next

section Tickets

variable {ports after : Ports} {grant : Grant} {grants rest : List Grant} {next : Nat}

theorem Issued.sublist (h : Issued next grants) (fewer : rest.Sublist grants) : Issued next rest :=
  ⟨h.distinct.sublist (fewer.map _), fun grant hmem => h.fresh grant (fewer.subset hmem)⟩

theorem Issued.perm (h : Issued next grants) (perm : grants.Perm rest) : Issued next rest :=
  ⟨(perm.map _).nodup h.distinct, fun grant hmem => h.fresh grant (perm.mem_iff.2 hmem)⟩

/-- A new ticket is issued. -/
theorem Issued.cons (h : Issued next grants) (ticket : grant.ticket = next) :
    Issued (next + 1) (grant :: grants) := by
  constructor
  · rw [List.map_cons, List.nodup_cons]
    refine ⟨fun hmem => ?_, h.distinct⟩
    rcases List.mem_map.1 hmem with ⟨other, hother, heq⟩
    have := h.fresh other hother
    omega
  · intro other hmem
    rcases List.mem_cons.1 hmem with rfl | hother
    · omega
    · exact Nat.lt_succ_of_lt (h.fresh other hother)

/-- A success moves the grant from the binds under way to the leases, or issues it. -/
theorem Issued.takes (h : Issued ports.nextTicket (ports.pending ++ rest))
    (takes : Takes ports grant after) :
    Issued after.nextTicket (after.pending ++ grant :: rest) := by
  cases takes with
  | fixed pending free =>
      have htickets : (ports.pending.map (·.ticket)).Nodup :=
        h.distinct.sublist ((List.sublist_append_left _ _).map _)
      have hperm := perm_cons_without htickets pending
      exact h.perm ((hperm.append_right rest).trans List.perm_middle.symm)
  | chosen ticket unclaimed free => exact (h.cons ticket).perm List.perm_middle.symm

theorem Issued.begin (h : Issued ports.nextTicket (ports.pending ++ rest)) (requested : Option Nat) :
    Issued (ports.begin requested).2.nextTicket ((ports.begin requested).2.pending ++ rest) := by
  rcases begin_cases ports requested with hsame | ⟨grant, hticket, hbegun⟩
  · rw [hsame]
    exact h
  · rw [hbegun]
    exact h.cons hticket

theorem Issued.cancel (h : Issued ports.nextTicket (ports.pending ++ rest)) (ticket : Nat) :
    Issued (ports.cancel ticket).nextTicket ((ports.cancel ticket).pending ++ rest) := by
  rcases cancel_cases ports ticket with hsame | ⟨port, hcancel⟩
  · rw [hsame]
    exact h
  · rw [hcancel]
    exact h.sublist (List.filter_sublist.append_right rest)

end Tickets

/-! ## Claims -/

section Claims

variable {ports after : Ports} {grant : Grant}

theorem Consistent.perform (h : Consistent ports) (move : Move) :
    Consistent (ports.perform move).2 :=
  h.change (perform_change h move)

theorem Consistent.dropBoth (h : Consistent ports) (ticket : Nat) :
    Consistent (ports.dropBoth ticket) :=
  (h.perform (.dropListener ticket)).perform (.dropLease ticket)

theorem Consistent.takes (h : Consistent ports) (takes : Takes ports grant after) :
    Consistent after := by
  cases takes with
  | fixed pending free =>
      have hmove := h.perform (.answerFixed grant.ticket true)
      simpa only [Ports.perform, answerFixed, pending, if_true] using hmove
  | chosen ticket unclaimed free =>
      have hmove := h.perform (.answerFree (.port grant.port))
      have hgrant : (⟨ports.nextTicket, grant.port⟩ : Grant) = grant := by rw [← ticket]
      simpa only [Ports.perform, answerFree, unclaimed, hgrant, Bool.false_eq_true, if_false]
        using hmove

theorem Consistent.occupy (h : Consistent ports) {port : Nat}
    (occupy : ports.occupy port = some after) : Consistent after := by
  have hmove := h.perform (.occupy port)
  simpa only [Ports.perform, occupy, Option.getD_some] using hmove

theorem Consistent.vacate (h : Consistent ports) {port : Nat}
    (vacate : ports.vacate port = some after) : Consistent after := by
  have hmove := h.perform (.vacate port)
  simpa only [Ports.perform, vacate, Option.getD_some] using hmove

end Claims

end Ports

end Readiness
