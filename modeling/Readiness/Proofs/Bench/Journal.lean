import Readiness.Bench
import Readiness.Proofs.Tunnel.Remote

/-!
# Journals — what operations ask, and what they are answered

* `Entry` is a request to the source or to the applier of a bench together with its answer, and a
  `Journal` has them in order, each with its instant;
* `Bench.withJournal` is the same bench, which also keeps a journal. It asks the same source and the
  same applier, and its tunnels use the same transport;
* `Operation.Logs`: on the bench with a journal an operation does what it does without one, and the
  journal grows by these entries. `Operation.Logs.andThen` and its like put entries together.
-/

namespace Readiness

/-- A request with its answer. -/
inductive Entry where
  | applied (manifest : Manifest) (answer : Observation Unit)
  | listed (kind : Kind) (ns : String) (selector : Option String)
      (answer : Observation (List Snapshot))
  | got (target : Target) (answer : Observation (Option Snapshot))

/-- Requests with their answers in order, each with the instant at which it was made. -/
abbrev Journal := List (Nat × Entry)

/-! ## Keeping a journal -/

variable {σ α β : Type}

/-- Asks, and puts the answer down. -/
def journaling (entry : Observation α → Entry) (ask : Nat → σ → Observation α × σ) (now : Nat)
    (s : σ × Journal) : Observation α × σ × Journal :=
  let (answer, next) := ask now s.1
  (answer, next, s.2 ++ [(now, entry answer)])

def Source.journaled (source : Source σ) : Source (σ × Journal) where
  get now target := journaling (.got target) (fun now s => source.get now target s) now
  list now kind ns selector :=
    journaling (.listed kind ns selector) (fun now s => source.list now kind ns selector s) now

def Applier.journaled (applier : Applier σ) : Applier (σ × Journal) where
  apply now manifest :=
    journaling (.applied manifest) (fun now s => applier.apply now manifest s) now

/-- Streams are none of the journal's business. -/
def Surroundings.journaled (surroundings : Surroundings σ) : Surroundings (σ × Journal) where
  transport := ⟨fun now endpoint port s =>
    let (dialing, next) := surroundings.transport.dial now endpoint port s.1
    (dialing, next, s.2)⟩
  sink := surroundings.sink

theorem Surroundings.maps_journaled (surroundings : Surroundings σ) (journal : Journal) :
    surroundings.Maps (·, journal) surroundings.journaled where
  sink := rfl
  dial _ _ _ _ := rfl

def Session.withJournal (session : Session σ) (journal : Journal) : Session (σ × Journal) :=
  ⟨session.relay.mapRemote (·, journal), session.options, session.surroundings.journaled,
    session.fixed, session.ports, session.tunnels, session.tickets, session.clients⟩

namespace Bench

/-- A bench that keeps a journal, with the entries so far. -/
def withJournal (bench : Bench σ) (journal : Journal) : Bench (σ × Journal) :=
  ⟨bench.settings, bench.pacing, bench.files, bench.source.journaled,
    bench.applier.map Applier.journaled, bench.session.withJournal journal⟩

section Parts

variable (bench : Bench σ) (journal : Journal)

@[simp] theorem now_withJournal : (bench.withJournal journal).now = bench.now := rfl

@[simp] theorem remote_withJournal :
    (bench.withJournal journal).remote = (bench.remote, journal) := rfl

@[simp] theorem note_withJournal (events : List Event) :
    (bench.withJournal journal).note events = (bench.note events).withJournal journal := rfl

/-- The tunnels do the same while the caller of a bench is busy, and the entries are its own. -/
theorem resume_withJournal (later : Journal) (instant : Nat) (remote : σ) (events : List Event) :
    (bench.withJournal journal).resume instant (remote, later) events =
      (bench.resume instant remote events).withJournal later := by
  have hrelay := Relay.mapRemote_resume bench.relay
    (bench.session.surroundings.maps_journaled later) (·, journal) instant remote events
  exact congrArg (bench.withJournal journal).withRelay hrelay

end Parts

/-! ## Time -/

theorem now_resume (bench : Bench σ) (instant : Nat) (remote : σ) (events : List Event) :
    (bench.resume instant remote events).now = max bench.now instant :=
  Relay.now_resume bench.relay bench.session.surroundings instant remote events

@[simp] theorem now_note (bench : Bench σ) (events : List Event) :
    (bench.note events).now = bench.now := rfl

/-! ## Operations -/

namespace Operation

section Sequences

variable {operation : Operation σ α} {next : α → Operation σ β} {bench : Bench σ}

theorem andThen_of_ok {a : α} (succeeded : (operation bench).result = some (.ok a)) :
    operation.andThen next bench = next a (operation bench).bench := by
  unfold andThen
  rcases hattempt : operation bench with ⟨result, left⟩
  rw [hattempt] at succeeded
  cases succeeded
  rfl

theorem andThen_of_error {error : Error}
    (failed : (operation bench).result = some (.error error)) :
    operation.andThen next bench = ⟨some (.error error), (operation bench).bench⟩ := by
  unfold andThen
  rcases hattempt : operation bench with ⟨result, left⟩
  rw [hattempt] at failed
  cases failed
  rfl

theorem andThen_of_none (unending : (operation bench).result = none) :
    operation.andThen next bench = ⟨none, (operation bench).bench⟩ := by
  unfold andThen
  rcases hattempt : operation bench with ⟨result, left⟩
  rw [hattempt] at unending
  cases unending
  rfl

/-- What follows on an operation that fails does not change anything. -/
theorem andThen_fails {error : Error} (failed : (operation bench).result = some (.error error)) :
    (operation.andThen next bench).result = some (.error error) ∧
      (operation.andThen next bench).bench = (operation bench).bench := by
  rw [andThen_of_error failed]
  exact ⟨rfl, rfl⟩

/-- What follows on an operation that never ends does not change anything. -/
theorem andThen_hangs (unending : (operation bench).result = none) :
    (operation.andThen next bench).result = none ∧
      (operation.andThen next bench).bench = (operation bench).bench := by
  rw [andThen_of_none unending]
  exact ⟨rfl, rfl⟩

/-- What follows only on a success leaves every other result as it is. -/
theorem result_noting (operation : Operation σ α) (event : α → Event) (bench : Bench σ) :
    (operation.noting event bench).result = (operation bench).result ∧
      (operation.noting event bench).bench.now = (operation bench).bench.now := by
  unfold noting
  rcases hresult : (operation bench).result with _ | error | a
  · rw [andThen_of_none hresult]
    exact ⟨rfl, rfl⟩
  · rw [andThen_of_error hresult]
    exact ⟨rfl, rfl⟩
  · rw [andThen_of_ok hresult]
    exact ⟨rfl, rfl⟩

end Sequences

theorem resume_frame (bench : Bench σ) (instant : Nat) (remote : σ) (events : List Event) :
    (bench.resume instant remote events).pacing = bench.pacing ∧
      (bench.resume instant remote events).source = bench.source := by
  unfold resume withRelay
  exact ⟨rfl, rfl⟩

/-- A wait leaves a bench with its pacing and its source. -/
theorem activity_frame (run : Bench σ → Option (Ended σ α)) (bench : Bench σ) :
    (activity run bench).bench.pacing = bench.pacing ∧
      (activity run bench).bench.source = bench.source := by
  unfold activity
  cases run bench with
  | none => exact ⟨rfl, rfl⟩
  | some ended => exact resume_frame bench _ _ _

/-- A wait that ends has its result, and the time has passed that it took. -/
theorem activity_of_some (run : Bench σ → Option (Ended σ α)) {bench : Bench σ} {ended : Ended σ α}
    (ends : run bench = some ended) :
    (activity run bench).result = some ended.result ∧
      (activity run bench).bench.now = max bench.now ended.finished := by
  unfold activity
  rw [ends]
  exact ⟨rfl, now_resume bench _ _ _⟩

/-- On a bench, an operation that keeps a journal does what one without it does. The journal grows by
some entries. -/
def Logs (logging : Operation (σ × Journal) α) (operation : Operation σ α) (bench : Bench σ)
    (entries : Journal) : Prop :=
  ∀ journal, logging (bench.withJournal journal) =
    ⟨(operation bench).result, (operation bench).bench.withJournal (journal ++ entries)⟩

namespace Logs

variable {logging : Operation (σ × Journal) α} {operation : Operation σ α} {bench : Bench σ}
  {entries : Journal} {next : α → Operation σ β} {after : α → Operation (σ × Journal) β}

theorem result_eq (h : Logs logging operation bench entries) (journal : Journal) :
    (logging (bench.withJournal journal)).result = (operation bench).result := by
  rw [h journal]

theorem andThen {a : α} {more : Journal} (h : Logs logging operation bench entries)
    (succeeded : (operation bench).result = some (.ok a))
    (further : Logs (after a) (next a) (operation bench).bench more) :
    Logs (logging.andThen after) (operation.andThen next) bench (entries ++ more) := by
  intro journal
  rw [andThen_of_ok succeeded, andThen_of_ok ((h.result_eq journal).trans succeeded), h journal]
  exact (further (journal ++ entries)).trans (by rw [List.append_assoc])

/-- Nothing follows on an operation that does not succeed. -/
theorem andThen_of_not_ok (h : Logs logging operation bench entries)
    (fails : ∀ a, (operation bench).result ≠ some (.ok a)) :
    Logs (logging.andThen after) (operation.andThen next) bench entries := by
  intro journal
  rcases hresult : (operation bench).result with _ | error | a
  · rw [andThen_of_none hresult, andThen_of_none ((h.result_eq journal).trans hresult), h journal]
  · rw [andThen_of_error hresult, andThen_of_error ((h.result_eq journal).trans hresult), h journal]
  · exact absurd hresult (fails a)

/-- What follows on a success without a request adds nothing. -/
theorem andThen_silent (h : Logs logging operation bench entries)
    (silent : ∀ a, Logs (after a) (next a) (operation bench).bench []) :
    Logs (logging.andThen after) (operation.andThen next) bench entries := by
  by_cases succeeds : ∃ a, (operation bench).result = some (.ok a)
  · rcases succeeds with ⟨a, hresult⟩
    have hboth := h.andThen hresult (silent a)
    rwa [List.append_nil] at hboth
  · exact h.andThen_of_not_ok fun a hresult => succeeds ⟨a, hresult⟩

theorem noting (h : Logs logging operation bench entries) (event : α → Event) :
    Logs (logging.noting event) (operation.noting event) bench entries :=
  h.andThen_silent fun a journal => by
    rw [List.append_nil]
    rfl

theorem map (h : Logs logging operation bench entries) (f : α → β) :
    Logs (logging.map f) (operation.map f) bench entries :=
  h.andThen_silent fun a journal => by rw [List.append_nil]

end Logs

end Operation

end Bench

end Readiness
