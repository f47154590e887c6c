import Readiness.Proofs.Attempt.Sequence
import Readiness.Proofs.Ports.Listeners

/-!
# Binding — what a bind without a pause does to the ports

* `Ports.bind_frame`: one that succeeds adds one lease with its listener, and one that fails adds
  nothing;
* `Ports.listen_of_ok` and `Ports.listen_of_error`: the same of a bind whose listener is asked for its
  address;
* `Ports.Refused` lists the errors that there can be instead, and `Ports.listen_error_iff`: each of them
  is returned exactly under its condition;
* `Ports.CanBind`, and `Ports.canBind_iff`: a fixed port can be bound exactly when it is neither claimed
  nor listened on and the host grants it.
-/

namespace Readiness

namespace Ports

variable {ports after : Ports} {request : Option Nat} {host : Host} {grant : Grant} {error : Error}
  {port : Nat}

/-- The bind of a fixed port adds a lease and its listener when the host grants it, and nothing
otherwise. -/
theorem answerFixed_startFixed (h : Consistent ports) {started : Ports}
    (start : ports.startFixed port = .ok (grant, started)) (granted : Bool) :
    grant.ticket = ports.nextTicket ∧
      (started.answerFixed grant.ticket granted).1 =
        (if granted then .ok () else .error (bindFailed port)) ∧
      (started.answerFixed grant.ticket granted).2.pending = ports.pending ∧
      (started.answerFixed grant.ticket granted).2.leases =
        (if granted then grant :: ports.leases else ports.leases) ∧
      (started.answerFixed grant.ticket granted).2.listeners =
        (if granted then grant :: ports.listeners else ports.listeners) ∧
      (started.answerFixed grant.ticket granted).2.occupied = ports.occupied := by
  have hpending : without ports.pending ports.nextTicket = ports.pending := by
    refine without_of_forall_ne fun other hmem => ?_
    exact Nat.ne_of_lt (h.fresh other (List.mem_append_left _ hmem))
  have hwithout : without (⟨ports.nextTicket, port⟩ :: ports.pending) ports.nextTicket =
      ports.pending := by
    rw [without, List.filter_cons_of_neg (by simp)]
    exact hpending
  unfold startFixed at start
  split at start
  · cases start
  · cases start
    cases granted <;> simp [answerFixed, cancel, grant?, release, claim, hwithout]

theorem bind_of_unfixed (unfixed : fixed? request = none) :
    ports.bind request host = ports.answerFree (ports.possible host.choice) := by
  simp only [bind, unfixed]

theorem bind_of_claimed (fixed : fixed? request = some port)
    (claimed : ports.isClaimed port = true) :
    ports.bind request host = (.error (heldElsewhere port), ports) := by
  simp only [bind, fixed, startFixed, claimed, if_true]

theorem bind_of_started {started : Ports} (fixed : fixed? request = some port)
    (start : ports.startFixed port = .ok (grant, started)) :
    ports.bind request host =
      ((started.answerFixed grant.ticket (host.grants && !started.isBound port)).1.map fun _ => grant,
        (started.answerFixed grant.ticket (host.grants && !started.isBound port)).2) := by
  simp only [bind, fixed, start]
  rcases started.answerFixed grant.ticket (host.grants && !started.isBound port) with
    ⟨_ | _, after⟩ <;> rfl

/-- A bind adds one lease with its listener, under a ticket of its own, and nothing when it fails. -/
theorem bind_frame (h : Consistent ports) (request : Option Nat) (host : Host) :
    let bound := ports.bind request host
    (∀ grant, bound.1 = .ok grant → grant.ticket = ports.nextTicket) ∧
      bound.2.pending = ports.pending ∧ bound.2.occupied = ports.occupied ∧
      bound.2.leases = bound.1.toOption.toList ++ ports.leases ∧
      bound.2.listeners = bound.1.toOption.toList ++ ports.listeners := by
  intro bound
  cases hfixed : fixed? request with
  | none =>
      have hbound : bound = ports.answerFree (ports.possible host.choice) := bind_of_unfixed hfixed
      rw [hbound]
      cases ports.possible host.choice with
      | refused => exact ⟨by rintro _ ⟨⟩, rfl, rfl, rfl, rfl⟩
      | unnamed reason => exact ⟨by rintro _ ⟨⟩, rfl, rfl, rfl, rfl⟩
      | port port =>
          simp only [answerFree]
          split
          · exact ⟨by rintro _ ⟨⟩, rfl, rfl, rfl, rfl⟩
          · refine ⟨fun grant granted => ?_, rfl, rfl, rfl, rfl⟩
            cases granted
            rfl
  | some port =>
      cases hstart : ports.startFixed port with
      | error error =>
          have hbound : bound = (.error error, ports) := by
            simp only [bound, bind, hfixed, hstart]
          rw [hbound]
          exact ⟨by rintro _ ⟨⟩, rfl, rfl, rfl, rfl⟩
      | ok start =>
          rcases start with ⟨grant, started⟩
          let answer := started.answerFixed grant.ticket (host.grants && !started.isBound port)
          rcases answerFixed_startFixed h hstart (host.grants && !started.isBound port) with
            ⟨hticket, hanswer, hpending, hleases, hlisteners, hoccupied⟩
          have hbound : bound = (answer.1.map fun _ => grant, answer.2) :=
            bind_of_started hfixed hstart
          rw [hbound]
          refine ⟨fun other granted => ?_, hpending, hoccupied, ?_, ?_⟩
          · rcases Attempt.map_eq_ok_iff.1 granted with ⟨_, -, rfl⟩
            exact hticket
          · rw [hleases, hanswer]
            cases host.grants && !started.isBound port <;> rfl
          · rw [hlisteners, hanswer]
            cases host.grants && !started.isBound port <;> rfl

/-- A bind that succeeds adds one lease with its listener. -/
theorem bind_of_ok (h : Consistent ports) (bound : ports.bind request host = (.ok grant, after)) :
    grant.ticket = ports.nextTicket ∧ after.pending = ports.pending ∧
      after.leases = grant :: ports.leases ∧ after.listeners = grant :: ports.listeners ∧
      after.occupied = ports.occupied := by
  rcases bound ▸ bind_frame h request host with ⟨hticket, hpending, hoccupied, hleases, hlisteners⟩
  exact ⟨hticket grant rfl, hpending, hleases, hlisteners, hoccupied⟩

/-- A bind that fails leaves the leases and the listeners as they are. -/
theorem frame_of_error (h : Consistent ports)
    (failed : ports.bind request host = (.error error, after)) :
    after.pending = ports.pending ∧ after.leases = ports.leases ∧
      after.listeners = ports.listeners ∧ after.occupied = ports.occupied := by
  rcases failed ▸ bind_frame h request host with ⟨-, hpending, hoccupied, hleases, hlisteners⟩
  exact ⟨hpending, hleases, hlisteners, hoccupied⟩

/-! ## Addresses of listeners -/

theorem located_of_ok {unnamed : Option String} {bound : Except Error Grant × Ports}
    (heard : located unnamed bound = (.ok grant, after)) :
    unnamed = none ∧ bound = (.ok grant, after) := by
  unfold located at heard
  split at heard
  · split at heard
    · exact ⟨rfl, heard⟩
    · cases heard
  · cases heard

theorem listen_of_ok (heard : ports.listen request host = (.ok grant, after)) :
    host.unnamed = none ∧ ports.bind request host = (.ok grant, after) :=
  located_of_ok heard

/-- Of a listener without an address nothing is left, and no other lease is given up with it. -/
theorem listen_of_error (h : Consistent ports)
    (failed : ports.listen request host = (.error error, after)) :
    after.pending = ports.pending ∧ after.leases = ports.leases ∧
      after.occupied = ports.occupied ∧
      ∀ listener ∈ after.listeners, listener ∈ ports.listeners := by
  rcases hbind : ports.bind request host with ⟨granted, bound⟩
  rw [listen, hbind] at failed
  cases granted with
  | error other =>
      cases failed
      rcases frame_of_error h hbind with ⟨hpending, hleases, hlisteners, hoccupied⟩
      exact ⟨hpending, hleases, hoccupied, fun _ => hlisteners ▸ id⟩
  | ok grant =>
      rcases bind_of_ok h hbind with ⟨hticket, hpending, hleases, hlisteners, hoccupied⟩
      cases hunnamed : host.unnamed with
      | none =>
          rw [hunnamed] at failed
          cases failed
      | some reason =>
          rw [hunnamed] at failed
          cases failed
          have hother : without ports.leases grant.ticket = ports.leases :=
            without_of_forall_ne fun lease hmem => by
              rw [hticket]
              exact Nat.ne_of_lt (h.fresh lease (List.mem_append_right _ hmem))
          refine ⟨(dropBoth_pending _ _).trans hpending, ?_,
            (dropBoth_occupied _ _).trans hoccupied, fun listener hmem => ?_⟩
          · rw [dropBoth_leases, hleases, without, List.filter_cons_of_neg (by simp)]
            exact hother
          · rw [dropBoth_listeners, hlisteners] at hmem
            rcases mem_without.1 hmem with ⟨hmem, hne⟩
            exact (List.mem_cons.1 hmem).resolve_left fun heq => hne (congrArg Grant.ticket heq)

/-! ## Errors -/

/-- All the ways in which there is no listener for a request: the registry holds the fixed port, the
host does not grant it or has none to choose, it does not say which one it chose, a bind under way or a
lease has the one that it chose, or it does not tell the address of the listener afterwards. -/
inductive Refused (ports : Ports) (request : Option Nat) (host : Host) : Error → Prop
  | held {port : Nat} (fixed : fixed? request = some port) (claimed : ports.isClaimed port = true) :
      Refused ports request host (heldElsewhere port)
  | denied {port : Nat} (fixed : fixed? request = some port) (free : ports.isClaimed port = false)
      (denies : host.grants = false ∨ ports.isBound port = true) :
      Refused ports request host (bindFailed port)
  | choiceless (unfixed : fixed? request = none) (choice : ports.possible host.choice = .refused) :
      Refused ports request host choiceFailed
  | nameless {reason : String} (unfixed : fixed? request = none)
      (choice : ports.possible host.choice = .unnamed reason) :
      Refused ports request host (.io reason)
  | collided {port : Nat} (unfixed : fixed? request = none)
      (choice : ports.possible host.choice = .port port) (claimed : ports.isClaimed port = true) :
      Refused ports request host (chosenTwice port)
  | unlocated {grant : Grant} {reason : String} (bound : (ports.bind request host).1 = .ok grant)
      (unnamed : host.unnamed = some reason) :
      Refused ports request host (.io reason)

theorem bind_of_free (fixed : fixed? request = some port) (free : ports.isClaimed port = false) :
    (ports.bind request host).1 =
      if host.grants && !ports.isBound port then .ok ⟨ports.nextTicket, port⟩
      else .error (bindFailed port) := by
  have hbound : isBound
      { ports.claim port with
        pending := ⟨ports.nextTicket, port⟩ :: ports.pending, nextTicket := ports.nextTicket + 1 }
      port = ports.isBound port := rfl
  cases hgranted : (host.grants && !ports.isBound port) <;>
    simp [bind, fixed, startFixed, free, hbound, answerFixed, grant?, hgranted]

/-- The errors of a bind. -/
theorem refused_of_bind (failed : (ports.bind request host).1 = .error error) :
    ports.Refused request host error := by
  cases hfixed : fixed? request with
  | none =>
      rw [bind_of_unfixed hfixed] at failed
      cases hchoice : ports.possible host.choice with
      | refused =>
          rw [hchoice] at failed
          cases failed
          exact .choiceless hfixed hchoice
      | unnamed reason =>
          rw [hchoice] at failed
          cases failed
          exact .nameless hfixed hchoice
      | port port =>
          cases hclaimed : ports.isClaimed port with
          | true =>
              simp only [hchoice, answerFree, hclaimed, if_true] at failed
              cases failed
              exact .collided hfixed hchoice hclaimed
          | false =>
              simp only [hchoice, answerFree, hclaimed, Bool.false_eq_true, if_false] at failed
              cases failed
  | some port =>
      cases hclaimed : ports.isClaimed port with
      | true =>
          rw [bind_of_claimed hfixed hclaimed] at failed
          cases failed
          exact .held hfixed hclaimed
      | false =>
          rw [bind_of_free hfixed hclaimed] at failed
          split at failed
          · cases failed
          · rename_i hdenied
            cases failed
            refine .denied hfixed hclaimed ?_
            cases hgrants : host.grants with
            | false => exact .inl rfl
            | true => simpa [hgrants] using hdenied

theorem located_error_iff {unnamed : Option String} {bound : Except Error Grant × Ports} :
    (located unnamed bound).1 = .error error ↔
      bound.1 = .error error ∨
        ∃ grant reason, bound.1 = .ok grant ∧ unnamed = some reason ∧ error = .io reason := by
  rcases bound with ⟨granted, after⟩
  cases granted with
  | error other => simp [located]
  | ok grant => cases unnamed <;> simp [located, eq_comm]

/-- Which error there is instead of a listener. -/
theorem listen_error_iff :
    (ports.listen request host).1 = .error error ↔ ports.Refused request host error := by
  rw [listen, located_error_iff]
  constructor
  · rintro (hbind | ⟨grant, reason, hbound, hunnamed, rfl⟩)
    · exact refused_of_bind hbind
    · exact .unlocated hbound hunnamed
  · intro refused
    cases refused with
    | held fixed claimed => exact .inl (by rw [bind_of_claimed fixed claimed])
    | @denied port fixed free denies =>
        left
        rw [bind_of_free fixed free, if_neg]
        rcases denies with hgrants | hbound <;> simp [*]
    | choiceless unfixed choice => exact .inl (by rw [bind_of_unfixed unfixed, choice]; rfl)
    | nameless unfixed choice => exact .inl (by rw [bind_of_unfixed unfixed, choice]; rfl)
    | collided unfixed choice claimed =>
        left
        simp only [bind_of_unfixed unfixed, choice, answerFree, claimed, if_true]
    | unlocated bound unnamed => exact .inr ⟨_, _, bound, unnamed, rfl⟩

theorem refused_or_listen (ports : Ports) (request : Option Nat) (host : Host) :
    (∃ error, ports.Refused request host error) ∨
      ∃ grant after, ports.listen request host = (.ok grant, after) := by
  rcases hlisten : ports.listen request host with ⟨granted, after⟩
  cases granted with
  | error error => exact .inl ⟨error, listen_error_iff.1 (congrArg Prod.fst hlisten)⟩
  | ok grant => exact .inr ⟨grant, after, rfl⟩

/-! ## Ports that can be bound -/

/-- The bind of a fixed port would succeed. -/
def CanBind (ports : Ports) (port : Nat) (host : Host) : Prop :=
  ∃ grant after, ports.bind (some port) host = (.ok grant, after)

/-- A fixed port can be bound exactly when it is neither claimed nor listened on and the host grants
it. -/
theorem canBind_iff (named : port ≠ 0) :
    CanBind ports port host ↔
      ports.isClaimed port = false ∧ ports.isBound port = false ∧ host.grants = true := by
  have hfixed : fixed? (some port) = some port := by
    simp [fixed?, Option.filter, named]
  have hfirst : CanBind ports port host ↔ ∃ grant, (ports.bind (some port) host).1 = .ok grant := by
    simp [CanBind, Prod.ext_iff]
  rw [hfirst]
  cases hclaimed : ports.isClaimed port with
  | true => simp [bind_of_claimed hfixed hclaimed]
  | false =>
      rw [bind_of_free hfixed hclaimed]
      cases host.grants <;> cases ports.isBound port <;> simp

/-- What is claimed and listened on decides which fixed ports can be bound. -/
theorem CanBind.mono (h : CanBind ports port host) (named : port ≠ 0)
    (claimed : after.isClaimed port = true → ports.isClaimed port = true)
    (occupied : after.occupied = ports.occupied)
    (listeners : ∀ grant ∈ after.listeners, grant ∈ ports.listeners) : CanBind after port host := by
  rcases (canBind_iff named).1 h with ⟨hfree, hunbound, hgrants⟩
  refine (canBind_iff named).2 ⟨?_, ?_, hgrants⟩
  · exact Bool.eq_false_iff.2 fun hclaimed => by
      rw [claimed hclaimed] at hfree
      cases hfree
  · rcases isBound_eq_false_iff.1 hunbound with ⟨hnone, hlisteners⟩
    exact isBound_eq_false_iff.2
      ⟨occupied ▸ hnone, fun listener hmem => hlisteners listener (listeners listener hmem)⟩

end Ports

end Readiness
