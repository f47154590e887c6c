import Readiness.Proofs.Wait.Ticks

/-!
# Record — what a wait is answered

* `Answers` are requests for one thing with their answers, and `recording` asks a source and keeps an
  entry about every answer;
* `Inquiry.answers` are the answers to the observations of a wait, counted from some number on;
* `Inquiry.Records`: a wait on a source that keeps a record is the wait on the source itself, and the
  record has an entry about each of these answers. `Inquiry.rounds_records`: every wait is, from any
  of its observations on, and `Inquiry.run_recording`: from the first.
-/

namespace Readiness

open Wait

variable {σ τ α β : Type}

/-- Requests for one thing with their answers, each with the instant at which it was made. -/
abbrev Answers (α : Type) := List (Nat × Observation α)

/-- Asks, and adds an entry about the answer to a record. -/
def recording (entry : Nat → Observation α → β) (observe : Nat → σ → Observation α × σ) (now : Nat)
    (s : σ × List β) : Observation α × σ × List β :=
  let (answer, next) := observe now s.1
  (answer, next, s.2 ++ [entry now answer])

def Waited.mapSource (f : σ → τ) (waited : Waited σ α) : Waited τ α :=
  ⟨⟨waited.result, waited.finished, f waited.source, waited.events⟩, waited.looks⟩

@[simp] theorem mapSource_precede (f : σ → τ) (look : Look α) (events : List Event)
    (rest : Waited σ α) :
    (Wait.precede look events rest).mapSource f = Wait.precede look events (rest.mapSource f) := rfl

namespace Inquiry

/-- What observation `k` is answered, with the instant at which it is made. -/
def answerAt (q : Inquiry σ α) (k : Nat) : Option (Nat × Observation α) :=
  (q.tickAt k).map fun (now, source) => (now, (q.observe now source).1)

/-- The answers to `count` observations from number `k` on. -/
def answers (q : Inquiry σ α) (k count : Nat) : Answers α :=
  (List.range' k count).filterMap q.answerAt

theorem answerAt_of_tickAt {q : Inquiry σ α} {k now : Nat} {source : σ}
    (h : q.tickAt k = some (now, source)) :
    q.answerAt k = some (now, (q.observe now source).1) := by
  rw [answerAt, h, Option.map_some]

theorem Reaches.answers_cons {q : Inquiry σ α} {k now : Nat} {source : σ}
    (h : q.Reaches k now source) (count : Nat) :
    q.answers k (count + 1) = (now, (q.observe now source).1) :: q.answers (k + 1) count := by
  rw [answers, List.range'_succ, List.filterMap_cons_some (answerAt_of_tickAt h.1), answers]

theorem Reaches.answers_concat {q : Inquiry σ α} {k now : Nat} {source : σ}
    (h : q.Reaches k now source) :
    q.answers 0 (k + 1) = q.answers 0 k ++ [(now, (q.observe now source).1)] := by
  rw [answers, List.range'_1_concat, List.filterMap_append, Nat.zero_add, answers,
    List.filterMap_cons_some (answerAt_of_tickAt h.1), List.filterMap_nil]

theorem exists_tickAt_of_mem {q : Inquiry σ α} {k instant : Nat} {answer : Observation α}
    (h : (instant, answer) ∈ q.answers 0 k) :
    ∃ j source, j < k ∧ q.tickAt j = some (instant, source) ∧
      (q.observe instant source).1 = answer := by
  rcases List.mem_filterMap.1 h with ⟨j, hj, hanswer⟩
  rcases Option.map_eq_some_iff.1 hanswer with ⟨⟨now, source⟩, htick, heq⟩
  cases heq
  have hbound : j < k := by simpa using hj
  exact ⟨j, source, hbound, htick, rfl⟩

theorem le_of_mem_answers {q : Inquiry σ α} {k instant : Nat} {answer : Observation α}
    (h : (instant, answer) ∈ q.answers 0 k) : q.start ≤ instant := by
  rcases exists_tickAt_of_mem h with ⟨j, source, -, htick, -⟩
  exact (tickAt_bounds htick).1

/-- The answers before the one that a wait closes with came before the deadline and decided
nothing. -/
theorem Undecided.of_mem {q : Inquiry σ α} {k instant : Nat} {answer : Observation α}
    (undecided : q.Undecided k) (h : (instant, answer) ∈ q.answers 0 k) :
    ∃ delay result events, answer = .after delay result events ∧
      instant + delay < q.start + q.pacing.timeoutMillis ∧
      Continues q.pacing q.condition result := by
  rcases exists_tickAt_of_mem h with ⟨j, source, before, htick, rfl⟩
  rcases undecided j before with ⟨ended, result, hcompletion, early, continues⟩
  rw [completion_of_tickAt htick] at hcompletion
  rcases Observation.eq_after_of_completed hcompletion with ⟨delay, events, hanswer, rfl⟩
  exact ⟨delay, result, events, hanswer, ofMillis_lt_deadline_iff.1 early, continues⟩

/-! ## Rounds on a source that keeps a record -/

/-- The wait `recorded` is the wait `w`, and its record has grown by an entry about every answer to the
observations from number `k` on. There is a look at the instant of each. -/
structure Records (q : Inquiry σ α) (k : Nat) (w : Waited σ α) (entry : Nat → Observation α → β)
    (record : List β) (recorded : Waited (σ × List β) α) : Prop where
  looks : w.looks.map (·.started) = (q.answers k w.looks.length).map (·.1)
  same : recorded = w.mapSource (·, record ++
    (q.answers k w.looks.length).map fun (instant, answer) => entry instant answer)

namespace Records

variable {q : Inquiry σ α} {k now : Nat} {source next : σ} {entry : Nat → Observation α → β}
  {record : List β}

/-- A wait that ends with the next look. -/
theorem conclude (reaches : q.Reaches k now source) {answer : Observation α}
    (asked : (q.observe now source).1 = answer) (seen : Option (Nat × Except Error α))
    (events : List Event) (result : Except Error α) (finished : Nat) :
    q.Records k (Wait.conclude ⟨now, seen⟩ events result finished next) entry record
      (Wait.conclude ⟨now, seen⟩ events result finished (next, record ++ [entry now answer])) := by
  subst asked
  have told : q.answers k 1 = [(now, (q.observe now source).1)] := reaches.answers_cons 0
  constructor
  · exact congrArg (List.map Prod.fst) told.symm
  · simp only [Wait.conclude, Waited.mapSource, List.length_singleton, told]
    rfl

/-- One more look in front of a wait. -/
theorem precede (reaches : q.Reaches k now source) {answer : Observation α}
    (asked : (q.observe now source).1 = answer) {rest : Waited σ α}
    {recorded : Waited (σ × List β) α}
    (h : q.Records (k + 1) rest entry (record ++ [entry now answer]) recorded)
    (seen : Option (Nat × Except Error α)) (events : List Event) :
    q.Records k (Wait.precede ⟨now, seen⟩ events rest) entry record
      (Wait.precede ⟨now, seen⟩ events recorded) := by
  subst asked
  have told : q.answers k (Wait.precede ⟨now, seen⟩ events rest).looks.length =
      (now, (q.observe now source).1) :: q.answers (k + 1) rest.looks.length :=
    reaches.answers_cons rest.looks.length
  -- The entries about the further answers come behind the one about this answer.
  constructor
  · rw [told, looks_precede, List.map_cons, List.map_cons, h.looks]
  · rw [told, h.same, mapSource_precede, List.map_cons, List.append_assoc]
    rfl

end Records

section Rounds

variable [Summary α]

/-- From observation `k` on, a source that keeps a record is asked what it is asked without one. -/
theorem rounds_records (q : Inquiry σ α) (entry : Nat → Observation α → β) (tick : Nat) {k now : Nat}
    {last : Option String} {source : σ} (reaches : q.Reaches k now source) (record : List β) :
    q.Records k (rounds q.pacing q.condition q.observe q.start tick last now source) entry record
      (rounds q.pacing q.condition (recording entry q.observe) q.start tick last now
        (source, record)) := by
  -- The cases are the branches of the loop; the observation `k` at its head is the invariant.
  fun_induction rounds q.pacing q.condition q.observe q.start tick last now source
    generalizing k record with
  | case1 tick last now source next hobserve =>
      rw [rounds]
      simp only [recording, hobserve]
      exact .conclude reaches (by rw [hobserve]) _ _ _ _
  | case2 tick last now source delay result events next hobserve ended =>
      rename_i late
      rw [rounds]
      simp only [recording, hobserve]
      rw [if_pos late]
      exact .conclude reaches (by rw [hobserve]) _ _ _ _
  | case3 tick last now source delay result events next hobserve ended inTime look all final =>
      rename_i hjudge
      rw [rounds]
      simp only [recording, hobserve]
      rw [if_neg inTime]
      simp only [hjudge]
      exact .conclude reaches (by rw [hobserve]) _ _ _ _
  | case4 tick last now source deadline delay result events next hobserve ended inTime look all text
      hjudge early =>
      rename_i ih
      rcases judge_goOn hjudge with ⟨continues, -⟩
      have hnext := reaches.next hobserve rfl early continues
      have hrecords := Records.precede reaches (by rw [hobserve])
        (ih hnext (record ++ [entry now (.after delay result events)])) (some (ended, result)) all
      have hrounds : rounds q.pacing q.condition (recording entry q.observe) q.start tick last now
          (source, record) = precede look all
            (rounds q.pacing q.condition (recording entry q.observe) q.start (tick + 1) (some text)
              (min (ended + q.pacing.intervalMillis) deadline)
              (next, record ++ [entry now (.after delay result events)])) := by
        rw [rounds]
        simp only [recording, hobserve]
        rw [if_neg inTime]
        simp only [hjudge]
        rw [if_pos early]
      rwa [hrounds]
  | case5 tick last now source deadline delay result events next hobserve ended inTime look all text
      hjudge =>
      rename_i passed
      rw [rounds]
      simp only [recording, hobserve]
      rw [if_neg inTime]
      simp only [hjudge]
      rw [if_neg passed]
      exact .conclude reaches (by rw [hobserve]) _ _ _ _

/-- A wait looks at the instants of its observations. -/
theorem looks_started {q : Inquiry σ α} {w : Waited σ α} (hrun : q.run = some w) :
    w.looks.map (·.started) = (q.answers 0 w.looks.length).map (·.1) := by
  unfold run Wait.run at hrun
  split at hrun
  · cases hrun
    exact (q.rounds_records (fun instant _ => instant) 1 (Reaches.start q) []).looks
  · cases hrun

/-- A wait on a source that keeps a record is the same wait, and the record grows by an entry about
the answer to every observation. -/
theorem run_recording (q : Inquiry σ α) (entry : Nat → Observation α → β) (record : List β) :
    Wait.run q.pacing q.condition (recording entry q.observe) q.start (q.source, record) =
      q.run.map fun w => w.mapSource
        (·, record ++ (q.answers 0 w.looks.length).map fun (instant, answer) =>
          entry instant answer) := by
  unfold run Wait.run
  cases isRepresentable q.pacing q.start with
  | true => exact congrArg some (q.rounds_records entry 1 (Reaches.start q) record).same
  | false => rfl

end Rounds

end Inquiry

end Readiness
