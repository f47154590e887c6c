import Readiness.Proofs.Bench.Journal
import Readiness.Proofs.Wait.Outcome
import Readiness.Proofs.Wait.Record

/-!
# Answers — what a wait and a delivery are told

* `entriesOf` puts requests for one thing, with their answers, into a journal;
* `Wait.Hears`: what a wait was told, up to the answer that decided. `Wait.run_hears`: every wait
  was, and a journal has it;
* `Delivery.Hears`: what the manifests of a directory were answered, up to the first that failed, and
  `applyAll_hears`.
-/

namespace Readiness

variable {σ τ α : Type}

def entriesOf (entry : Observation α → Entry) (answers : Answers α) : Journal :=
  answers.map fun (instant, answer) => (instant, entry answer)

/-! ## Waits -/

/-- The answer is a state of which something holds. -/
def Observation.Satisfies (holds : α → Bool) (answer : Observation α) : Prop :=
  ∃ delay state events, answer = .after delay (.ok state) events ∧ holds state = true

namespace Wait

/-- What a wait is told from an instant on, up to its end, and its result. The answers before the last
one decide nothing, and a state that the wait returns comes with the last one. -/
structure Hears (holds : α → Bool) (start finished : Nat) (result : Except Error α)
    (answers : Answers α) : Prop where
  begun : ∀ instant answer, (instant, answer) ∈ answers → start ≤ instant
  undecided : ∀ instant answer, (instant, answer) ∈ answers.dropLast → ¬ answer.Satisfies holds
  decided : ∀ state, result = .ok state → holds state = true ∧
    ∃ instant delay events, answers.getLast? = some (instant, .after delay (.ok state) events) ∧
      finished = instant + delay

section Rounds

variable [Summary α]

/-- A wait is told the answers to its observations. -/
theorem hears_of_course {q : Inquiry σ α} {w : Waited σ α} {k now : Nat} {source : σ}
    {seen : Option (Nat × Except Error α)} (course : Inquiry.Course q 0 w k now source seen) :
    Hears q.condition.holds q.start w.finished w.result (q.answers 0 (k + 1)) where
  begun instant answer hmem := Inquiry.le_of_mem_answers hmem
  undecided instant answer hmem := by
    rw [course.reaches.answers_concat, List.dropLast_concat] at hmem
    rcases Inquiry.Undecided.of_mem course.reaches.2 hmem with
      ⟨delay, result, events, rfl, -, continues⟩
    rintro ⟨_, state, _, heq, holds⟩
    cases heq
    rw [Continues, holds] at continues
    cases continues
  decided state hresult := by
    have hclosing := course.closing
    rw [hresult] at hclosing
    generalize w.finished = finished at hclosing
    cases hclosing with
    | decided completes inTime decides =>
        rcases Observation.eq_after_of_completed completes with ⟨delay, events, hanswer, rfl⟩
        refine ⟨Bool.not_eq_false _ ▸ decides, now, delay, events, ?_, rfl⟩
        rw [course.reaches.answers_concat, List.getLast?_concat, hanswer]

/-- A wait whose deadlines are representable returns by its cutoff, and a journal has what it was
told. -/
theorem run_hears (pacing : Pacing) (condition : Condition α)
    (observe : Nat → σ → Observation α × σ) (start : Nat) (s : σ)
    (representable : isRepresentable pacing start = true) :
    ∃ waited answers, run pacing condition observe start s = some waited ∧
      start ≤ waited.finished ∧ waited.finished ≤ start + pacing.cutoffMillis ∧
      Hears condition.holds start waited.finished waited.result answers ∧
      ∀ entry journal, run pacing condition (journaling entry observe) start (s, journal) =
        some (waited.mapSource (·, journal ++ entriesOf entry answers)) := by
  let q : Inquiry σ α := ⟨pacing, condition, observe, start, s⟩
  rcases q.exists_course representable with ⟨waited, k, now, source, seen, hrun, course⟩
  have hlength : waited.looks.length = k + 1 := course.length_looks
  refine ⟨waited, q.answers 0 (k + 1), hrun, course.finished_bounds.1, course.finished_bounds.2,
    hears_of_course course, fun entry journal => ?_⟩
  have hrecorded := q.run_recording (fun instant answer => (instant, entry answer)) journal
  rw [hrun, Option.map_some, hlength] at hrecorded
  exact hrecorded

/-- A wait whose first observation brings what it waits for ends with it. -/
theorem run_of_first {pacing : Pacing} (condition : Condition α)
    (observe : Nat → σ → Observation α × σ) {start delay : Nat} {s next : σ} {state : α}
    {events : List Event} (representable : isRepresentable pacing start = true)
    (answer : observe start s = (.after delay (.ok state) events, next))
    (inTime : delay ≤ pacing.cutoffMillis) (satisfied : condition.holds state = true) :
    ∃ waited, run pacing condition observe start s = some waited ∧ waited.result = .ok state ∧
      waited.finished = start + delay := by
  refine ⟨_, if_pos representable, ?_⟩
  have hinTime : ¬ start + pacing.cutoffMillis < start + delay := by omega
  rw [rounds]
  simp only [answer, hinTime, if_false, judge, satisfied, if_true]
  exact ⟨rfl, rfl⟩

/-- A wait whose observations hang ends when the first one is cut off. -/
theorem run_of_hanging {pacing : Pacing} (condition : Condition α)
    (observe : Nat → σ → Observation α × σ) {start : Nat} {s next : σ}
    (representable : isRepresentable pacing start = true) (answer : observe start s = (.never, next)) :
    ∃ waited, run pacing condition observe start s = some waited ∧
      waited.finished = start + pacing.cutoffMillis := by
  refine ⟨_, if_pos representable, ?_⟩
  rw [rounds]
  simp only [answer]
  rfl

end Rounds

end Wait

/-! ## Deliveries -/

/-- Manifests that were sent, with their answers and the instants at which they were sent. -/
abbrev Requests := List (Nat × Manifest × Observation Unit)

def Requests.entries (requests : Requests) : Journal :=
  requests.map fun (instant, manifest, answer) => (instant, .applied manifest answer)

def Requests.manifests (requests : Requests) : List Manifest := requests.map (·.2.1)

/-- All manifests were applied successfully, by an instant. -/
def Requests.SucceededBy (requests : Requests) (limit : Nat) : Prop :=
  ∀ instant manifest answer, (instant, manifest, answer) ∈ requests →
    ∃ delay events, answer = .after delay (.ok ()) events ∧ instant + delay ≤ limit

theorem Requests.succeededBy_nil (limit : Nat) : Requests.SucceededBy [] limit :=
  fun _ _ _ hmem => nomatch hmem

theorem Requests.SucceededBy.cons {requests : Requests} {now delay limit : Nat} {manifest : Manifest}
    {events : List Event} (h : requests.SucceededBy limit) (inTime : now + delay ≤ limit) :
    Requests.SucceededBy ((now, manifest, .after delay (.ok ()) events) :: requests) limit := by
  intro instant other answer hmem
  rcases List.mem_cons.1 hmem with heq | hrest
  · cases heq
    exact ⟨delay, events, rfl, inTime⟩
  · exact h instant other answer hrest

/-- What sending manifests comes to, and what was sent for it. -/
inductive Applied (manifests : List Manifest) (finished : Nat) :
    Option (Except Error Nat) → Requests → Prop
  /-- All of them succeed. -/
  | all {requests : Requests} {count : Nat} (sent : requests.manifests = manifests)
      (succeeded : requests.SucceededBy finished) :
      Applied manifests finished (some (.ok count)) requests
  /-- The last one that was sent is refused. -/
  | refused {requests : Requests} {manifest : Manifest} {rest : List Manifest} {instant delay : Nat}
      {error : Error} {events : List Event}
      (sent : requests.manifests ++ manifest :: rest = manifests)
      (succeeded : requests.SucceededBy finished) :
      Applied manifests finished (some (.error error))
        (requests ++ [(instant, manifest, .after delay (.error error) events)])
  /-- The last one that was sent is never answered. -/
  | hung {requests : Requests} {manifest : Manifest} {rest : List Manifest} {instant : Nat}
      (sent : requests.manifests ++ manifest :: rest = manifests)
      (succeeded : requests.SucceededBy finished) :
      Applied manifests finished none (requests ++ [(instant, manifest, .never)])

namespace Applied

variable {manifests : List Manifest} {finished now delay : Nat} {events : List Event}
  {outcome : Option (Except Error Nat)} {requests : Requests} {manifest : Manifest}

/-- A manifest that succeeds before the others. -/
theorem cons (h : Applied manifests finished outcome requests) (inTime : now + delay ≤ finished) :
    Applied (manifest :: manifests) finished outcome
      ((now, manifest, .after delay (.ok ()) events) :: requests) := by
  cases h with
  | all sent succeeded =>
      exact .all (congrArg (manifest :: ·) sent) (succeeded.cons inTime)
  | @refused requests last rest _ _ _ _ sent succeeded =>
      have hsent : Requests.manifests ((now, manifest, .after delay (.ok ()) events) :: requests) ++
          last :: rest = manifest :: manifests := congrArg (manifest :: ·) sent
      exact .refused hsent (succeeded.cons inTime)
  | @hung requests last rest _ sent succeeded =>
      have hsent : Requests.manifests ((now, manifest, .after delay (.ok ()) events) :: requests) ++
          last :: rest = manifest :: manifests := congrArg (manifest :: ·) sent
      exact .hung hsent (succeeded.cons inTime)

end Applied

def Delivery.mapState (f : σ → τ) (delivery : Delivery σ) : Delivery τ :=
  ⟨delivery.outcome, delivery.finished, delivery.events, f delivery.state⟩

theorem Delivery.announce_mapState (f : σ → τ) (dir ns : String) (delivery : Delivery σ) :
    (delivery.mapState f).announce dir ns = (delivery.announce dir ns).mapState f := by
  unfold announce mapState
  dsimp only
  split <;> rfl

/-- Manifests are sent one after the other until one does not succeed, and a journal has just
that. -/
theorem applyAll_applied (applier : Applier σ) (now count : Nat) (events : List Event) (s : σ)
    (manifests : List Manifest) :
    let delivery := applyAll applier now count events s manifests
    ∃ requests, now ≤ delivery.finished ∧
      Applied manifests delivery.finished delivery.outcome requests ∧
      ∀ journal, applyAll applier.journaled now count events (s, journal) manifests =
        delivery.mapState (·, journal ++ requests.entries) := by
  induction manifests generalizing now count events s with
  | nil =>
      refine ⟨[], Nat.le_refl _, ?_, fun journal => ?_⟩
      · exact .all rfl (Requests.succeededBy_nil _)
      · simp only [applyAll, Delivery.mapState, Requests.entries, List.map_nil, List.append_nil]
  | cons manifest rest ih =>
      rcases hanswer : applier.apply now manifest s with ⟨answer, after⟩
      have hsplit : Requests.manifests [] ++ manifest :: rest = manifest :: rest := rfl
      have hjournaled (journal : Journal) : applier.journaled.apply now manifest (s, journal) =
          (answer, after, journal ++ [(now, .applied manifest answer)]) := by
        simp only [Applier.journaled, journaling, hanswer]
      cases answer with
      | never =>
          refine ⟨[(now, manifest, .never)], ?_, ?_, fun journal => ?_⟩
          · simp only [applyAll, hanswer, Nat.le_refl]
          · simp only [applyAll, hanswer]
            exact Applied.hung hsplit (Requests.succeededBy_nil _)
          · simp only [applyAll, hanswer, hjournaled]
            rfl
      | after delay result more =>
          cases result with
          | error error =>
              refine ⟨[(now, manifest, .after delay (.error error) more)], ?_, ?_, fun journal => ?_⟩
              · simp only [applyAll, hanswer, Nat.le_add_right]
              · simp only [applyAll, hanswer]
                exact Applied.refused hsplit (Requests.succeededBy_nil _)
              · simp only [applyAll, hanswer, hjournaled]
                rfl
          | ok done =>
              rcases ih (now + delay) (count + 1) (events ++ more) after with
                ⟨requests, hforward, happlied, hjournal⟩
              refine ⟨(now, manifest, .after delay (.ok ()) more) :: requests, ?_, ?_,
                fun journal => ?_⟩
              · simp only [applyAll, hanswer]
                omega
              · simp only [applyAll, hanswer]
                exact happlied.cons hforward
              · simp only [applyAll, hanswer, hjournaled]
                rw [hjournal, List.append_assoc]
                rfl

@[simp] theorem Delivery.finished_announce (dir ns : String) (delivery : Delivery σ) :
    (delivery.announce dir ns).finished = delivery.finished := by
  unfold announce
  split <;> rfl

/-- Nothing is sent of a directory that cannot be loaded, and otherwise its manifests are. -/
theorem deliverDir_applied (applier : Applier σ) (files : FileTree) (dir ns : String) (now : Nat)
    (s : σ) :
    let delivery := deliverDir applier files dir ns now s
    ∃ requests : Requests, now ≤ delivery.finished ∧
      ((∃ error, Manifest.loadDir files dir ns = .error error ∧
          delivery.outcome = some (.error error) ∧ requests = []) ∨
        ∃ manifests, Manifest.loadDir files dir ns = .ok manifests ∧
          Applied manifests delivery.finished delivery.outcome requests) ∧
      ∀ journal, deliverDir applier.journaled files dir ns now (s, journal) =
        delivery.mapState (·, journal ++ requests.entries) := by
  unfold deliverDir
  cases hload : Manifest.loadDir files dir ns with
  | error error =>
      refine ⟨[], Nat.le_refl _, .inl ⟨error, rfl, rfl, rfl⟩, fun journal => ?_⟩
      simp only [Requests.entries, List.map_nil, List.append_nil]
      rfl
  | ok manifests =>
      rcases applyAll_applied applier now 0 [] s manifests with
        ⟨requests, hforward, happlied, hjournal⟩
      refine ⟨requests, ?_, .inr ⟨manifests, rfl, ?_⟩, fun journal => ?_⟩
      · simp only [Delivery.finished_announce]
        exact hforward
      · simp only [Delivery.finished_announce, Delivery.outcome_announce]
        exact happlied
      · simp only [hjournal, Delivery.announce_mapState]

end Readiness
