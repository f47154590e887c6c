import Readiness.Proofs.Wait.Ticks
import Readiness.Script

/-!
# Outcome — what a wait returns, and when

* `Inquiry.Decides`: an observation is the first one whose result decides, and it completes by a
  given instant;
* `run_returns_first_decision`: a wait returns exactly the first result that decides by the firing
  of the timer that cuts an observation off;
* `run_ends_within_window`: a wait ends by its cutoff, and an error by which it gives up of its own
  accord reports the time that was spent, between the timeout and the cutoff.
-/

namespace Readiness

open Wait

namespace Inquiry

variable {σ α : Type}

/-! ## The first decision -/

/-- Observation `k` completes at `ended` with `result`, by the instant `limit`. This result decides,
and the observations before it did not. -/
structure Decides (q : Inquiry σ α) (limit : Duration) (k ended : Nat) (result : Except Error α) :
    Prop where
  completes : q.completion k = some (ended, result)
  inTime : Duration.ofMillis ended ≤ limit
  decides : ¬ Continues q.pacing q.condition result
  undecided : q.Undecided k

theorem ofMillis_le_firing_cutoff_iff {q : Inquiry σ α} {t : Nat} :
    Duration.ofMillis t ≤ q.cutoff.firing ↔ t ≤ q.start + q.pacing.cutoffMillis := by
  rw [Duration.firing, Duration.ofMillis_le_ofMillis_iff, cutoff, deadline, Duration.add_assoc,
    Duration.timerMillis_ofMillis_add]
  rfl

/-- With exact timers, an observation is cut off at the cutoff itself. -/
theorem cutoff_eq_of_exact {q : Inquiry σ α} (exact : q.pacing.Exact) :
    q.cutoff = .ofMillis (q.start + q.pacing.cutoffMillis) := by
  rw [cutoff, deadline, Duration.add_assoc, exact.add_eq, Duration.ofMillis_add_ofMillis]

theorem firing_cutoff_of_exact {q : Inquiry σ α} (exact : q.pacing.Exact) :
    q.cutoff.firing = q.cutoff := by
  rw [cutoff_eq_of_exact exact, Duration.firing, Duration.timerMillis_ofMillis]

section Run

variable [Summary α]

/-- A wait whose result is no error of giving up has it from the observation that it closes with. -/
theorem Course.decides_of_result {q : Inquiry σ α} {w : Waited σ α} {k now : Nat} {source : σ}
    {seen : Option (Nat × Except Error α)} (course : Course q 0 w k now source seen)
    (result : ∀ millis last, w.result ≠ .error (gaveUp q.condition millis last)) :
    q.Decides q.cutoff.firing k w.finished w.result := by
  rcases course with ⟨⟨htick, undecided⟩, closing, -, -, -⟩
  have hcompletion := completion_of_tickAt htick
  generalize w.result = final, w.finished = finished at *
  -- Of the three ways to close, two give up.
  cases closing with
  | cutOff late => exact absurd rfl (result _ _)
  | decided completes inTime decides =>
      have limit := ofMillis_le_firing_cutoff_iff.2 inTime
      exact ⟨hcompletion.trans completes, limit, decides, undecided⟩
  | expired completes inTime continues passed => exact absurd rfl (result _ _)

theorem Course.source_eq {q : Inquiry σ α} {w : Waited σ α} {k now ended : Nat} {source : σ}
    {seen : Option (Nat × Except Error α)} {result : Except Error α}
    (course : Course q 0 w k now source seen) (completes : q.completion k = some (ended, result)) :
    (q.tickAt (k + 1)).map (·.2) = some w.source := by
  have htick := course.reaches.1
  rw [completion_of_tickAt htick] at completes
  rw [tickAt_succ htick completes, course.asked]
  rfl

/-- A wait returns exactly the first observation that decides and completes by the firing of the
cutoff timer: it ends there, with that very result, and has made no further observation. A wait that
retries errors returns no error but a timeout. Exact timers fire at the cutoff itself. -/
theorem run_returns_first_decision (q : Inquiry σ α) (representable : q.IsRepresentable) :
    ∃ w, q.run = some w ∧
      (∀ state, w.result = .ok state ↔
        ∃ k ended, q.Decides q.cutoff.firing k ended (.ok state)) ∧
      (∀ k ended result, q.Decides q.cutoff.firing k ended result →
        w.result = result ∧ w.finished = ended ∧ w.looks.length = k + 1 ∧
          (q.tickAt (k + 1)).map (·.2) = some w.source) ∧
      (q.pacing.retriesErrors = true → ∀ error, w.result = .error error →
        error.isTimeout = true) ∧
      (q.pacing.Exact → q.cutoff.firing = q.cutoff) := by
  rcases q.exists_course representable with ⟨w, k, now, source, seen, hrun, course⟩
  -- Whatever observation decides first, it is the one that the wait closes with.
  have returned : ∀ m ended result, q.Decides q.cutoff.firing m ended result →
      m = k ∧ w.result = result ∧ w.finished = ended := by
    intro m ended result h
    exact course.eq_of_decides h.undecided h.completes
      (ofMillis_le_firing_cutoff_iff.1 h.inTime) h.decides
  refine ⟨w, hrun, ?_, ?_, ?_, firing_cutoff_of_exact⟩
  · intro state
    constructor
    · intro hstate
      have := course.decides_of_result fun millis last h => by
        rw [hstate] at h
        cases h
      rw [hstate] at this
      exact ⟨k, w.finished, this⟩
    · rintro ⟨m, ended, h⟩
      exact (returned m ended _ h).2.1
  · intro m ended result h
    rcases returned m ended result h with ⟨rfl, hresult, hfinished⟩
    exact ⟨hresult, hfinished, course.length_looks, course.source_eq h.completes⟩
  · intro retries error herror
    -- An error that is no timeout is not of the wait, so an observation decided by it.
    cases htimeout : error.isTimeout with
    | true => rfl
    | false =>
        have := course.decides_of_result fun millis last h => by
          rw [herror] at h
          cases h
          cases htimeout
        rw [herror] at this
        exact absurd retries this.decides

/-- A state, a retried error, and a state that satisfies the condition at the very cutoff. -/
def lateScript : Inquiry (Script (Option Snapshot)) (Option Snapshot) where
  pacing := ⟨.ofSecs 1, .ofSecs 2, true, by decide, by decide⟩
  condition := ⟨"present", Option.isSome⟩
  observe _ script :=
    let (step, rest) := Script.next none script
    (step.observe, rest)
  start := 0
  source := [.answer 100 none, .fail 50 (.io "reset"), .answer 1000 (some default)]

theorem lateScript_returns_third_observation :
    lateScript.IsRepresentable ∧ lateScript.pacing.retriesErrors = true ∧
      lateScript.Decides lateScript.cutoff.firing 2 3000 (.ok (some default)) ∧
      ∃ w, lateScript.run = some w ∧ w.result = .ok (some default) ∧ w.finished = 3000 ∧
        w.looks.length = 3 := by
  have representable : lateScript.IsRepresentable := by decide
  -- The third observation begins at the deadline, which is sooner than one interval later.
  have hticks : lateScript.tickAt 1 =
        some (1100, [.fail 50 (.io "reset"), .answer 1000 (some default)]) ∧
      lateScript.tickAt 2 = some (2000, [.answer 1000 (some default)]) := by
    simp [tickAt, lateScript, Script.next, ScriptStep.observe, Observation.completed,
      Pacing.intervalMillis, Pacing.timeoutMillis, Duration.timerMillis, Duration.ofSecs]
  have hsecond : lateScript.completion 1 = some (1150, .error (.io "reset")) :=
    completion_of_tickAt hticks.1
  have hthird : lateScript.completion 2 = some (3000, .ok (some default)) :=
    completion_of_tickAt hticks.2
  have decides : lateScript.Decides lateScript.cutoff.firing 2 3000 (.ok (some default)) := by
    refine ⟨hthird, by decide, by simp [Continues, lateScript], ?_⟩
    intro j hj
    obtain rfl | rfl : j = 0 ∨ j = 1 := by omega
    · exact ⟨100, .ok none, rfl, by decide, rfl⟩
    · exact ⟨1150, .error (.io "reset"), hsecond, by decide, rfl⟩
  rcases run_returns_first_decision lateScript representable with ⟨w, hrun, -, returned, -⟩
  rcases returned 2 3000 _ decides with ⟨hresult, hfinished, hlooks, -⟩
  exact ⟨representable, rfl, decides, w, hrun, hresult, hfinished, hlooks⟩

/-- The cutoff lies half a millisecond before the completion of the first observation. -/
def halfLate : Inquiry Unit (List Snapshot) where
  pacing := ⟨.ofSecs 1, ⟨1000500000⟩, false, by decide, by decide⟩
  condition := ⟨"a listing", fun _ => true⟩
  observe _ source := (.after 2001 (.ok []) [], source)
  start := 0
  source := ()

/-- A timer never fires early, so an observation may complete after the cutoff and still be
returned. -/
theorem halfLate_returns_after_cutoff :
    halfLate.IsRepresentable ∧ ∃ w, halfLate.run = some w ∧
      ¬ (w.result = .ok [] ↔ ∃ k ended, halfLate.Decides halfLate.cutoff k ended (.ok [])) := by
  have representable : halfLate.IsRepresentable := by decide
  rcases halfLate.exists_course representable with ⟨w, k, now, source, seen, hrun, course⟩
  refine ⟨representable, w, hrun, ?_⟩
  have hresult : w.result = .ok [] :=
    (course.eq_of_decides (m := 0) (fun j hj => absurd hj (Nat.not_lt_zero j)) rfl (by decide)
      (by simp [Continues, halfLate])).2.1
  rintro ⟨h, -⟩
  rcases h hresult with ⟨m, ended, decides⟩
  -- The first observation completes too late, and a later one would need it before the deadline.
  cases m with
  | zero =>
      have completes := decides.completes
      cases completes
      exact absurd decides.inTime (by decide)
  | succ m =>
      rcases decides.undecided 0 (Nat.succ_pos m) with ⟨t, r, completes, early, -⟩
      cases completes
      exact absurd early (by decide)

/-! ## The window of a wait -/

/-- The wait hands on the error with which its last observation failed. -/
def HandsOn (q : Inquiry σ α) (w : Waited σ α) : Prop :=
  q.pacing.retriesErrors = false ∧
    ∃ look ∈ w.looks.getLast?, ∃ ended error, look.seen = some (ended, .error error)

theorem Course.finished_bounds {q : Inquiry σ α} {w : Waited σ α} {k now : Nat} {source : σ}
    {seen : Option (Nat × Except Error α)} (course : Course q 0 w k now source seen) :
    q.start ≤ w.finished ∧ w.finished ≤ q.start + q.pacing.cutoffMillis := by
  rcases tickAt_bounds course.reaches.1 with ⟨hstart, -⟩
  have hclosing := course.closing
  generalize w.result = final, w.finished = finished at hclosing ⊢
  cases hclosing with
  | cutOff late => omega
  | decided completes inTime _ =>
      have := Observation.le_of_completed completes
      omega
  | expired completes inTime _ _ =>
      have := Observation.le_of_completed completes
      omega

/-- A wait that gives up of its own accord reports the time that it took. It does so at the cutoff
without having seen the last observation complete, or after the deadline when that completes. -/
theorem Course.timeout_cases {q : Inquiry σ α} {w : Waited σ α} {k now : Nat} {source : σ}
    {seen : Option (Nat × Except Error α)} {description : String} {elapsed : Duration}
    {last : Option String} (course : Course q 0 w k now source seen)
    (timeout : w.result = .error (.timeout description elapsed last)) (own : ¬ q.HandsOn w) :
    elapsed = .ofMillis (w.finished - q.start) ∧
      (seen = none ∧ w.finished = q.start + q.pacing.cutoffMillis ∨
        ∃ result, seen = some (w.finished, result) ∧
          q.start + q.pacing.timeoutMillis ≤ w.finished) := by
  have hclosing := course.closing
  have hlook := course.lastLook
  generalize w.result = final, w.finished = finished at hclosing timeout ⊢
  cases hclosing with
  | cutOff late =>
      cases timeout
      refine ⟨?_, .inl ⟨rfl, rfl⟩⟩
      rw [Nat.add_sub_cancel_left]
  | decided completes inTime decides =>
      -- The timeout is an error of the observation, which is handed on.
      rw [timeout] at hlook decides
      have retries : q.pacing.retriesErrors = false := Bool.eq_false_iff.2 decides
      exact absurd ⟨retries, _, hlook, _, _, rfl⟩ own
  | expired completes inTime continues passed =>
      cases timeout
      exact ⟨rfl, .inr ⟨_, rfl, passed⟩⟩

/-- A wait whose timers are exact ends by its cutoff. An error by which it gives up of its own
accord reports the time that it took, which is at least the timeout and at most the timeout and one
interval, and it is the latter exactly when the last observation was cut off or completed at the
cutoff. -/
theorem run_ends_within_window (q : Inquiry σ α) (representable : q.IsRepresentable)
    (exact : q.pacing.Exact) :
    ∃ w, q.run = some w ∧ q.start ≤ w.finished ∧ Duration.ofMillis w.finished ≤ q.cutoff ∧
      ∀ description elapsed last, w.result = .error (.timeout description elapsed last) →
        ¬ q.HandsOn w →
          elapsed = .ofMillis (w.finished - q.start) ∧ q.pacing.timeout ≤ elapsed ∧
            elapsed ≤ q.pacing.timeout.add q.pacing.interval ∧
            (elapsed = q.pacing.timeout.add q.pacing.interval ↔
              ∃ look ∈ w.looks.getLast?, look.seen = none ∨
                ∃ ended result, look.seen = some (ended, result) ∧
                  Duration.ofMillis ended = q.cutoff) := by
  rcases q.exists_course representable with ⟨w, k, now, source, seen, hrun, course⟩
  rcases course.finished_bounds with ⟨hstart, hcutoff⟩
  have cutoff_eq := cutoff_eq_of_exact exact
  have le_cutoff : Duration.ofMillis w.finished ≤ q.cutoff := by
    rwa [cutoff_eq, Duration.ofMillis_le_ofMillis_iff]
  refine ⟨w, hrun, hstart, le_cutoff, ?_⟩
  intro description elapsed last timeout own
  rcases course.timeout_cases timeout own with ⟨rfl, ending⟩
  have hlook := course.lastLook
  have hdeadline := q.pacing.timeoutMillis_le_cutoffMillis
  -- Both ways to give up lead past the deadline.
  have hpassed : q.start + q.pacing.timeoutMillis ≤ w.finished := by
    rcases ending with ⟨-, hend⟩ | ⟨result, -, hend⟩ <;> omega
  refine ⟨rfl, ?_, ?_, ?_⟩
  · rw [← exact.2, Duration.firing, Duration.ofMillis_le_ofMillis_iff]
    exact Nat.le_sub_of_add_le' hpassed
  · rw [exact.add_eq, Duration.ofMillis_le_ofMillis_iff]
    exact Nat.sub_le_iff_le_add'.2 hcutoff
  · rw [exact.add_eq, Duration.ofMillis_inj, cutoff_eq, hlook]
    rcases ending with ⟨rfl, hend⟩ | ⟨result, rfl, hend⟩
    · simp [hend]
    · simp [Duration.ofMillis_inj]
      omega

/-- The second observation hangs. -/
def hangingScript : Inquiry (Script (Option Snapshot)) (Option Snapshot) where
  pacing := ⟨.ofSecs 1, .ofSecs 5, false, by decide, by decide⟩
  condition := ⟨"present", Option.isSome⟩
  observe _ script :=
    let (step, rest) := Script.next none script
    (step.observe, rest)
  start := 0
  source := [.answer 0 none, .hang]

theorem hangingScript_is_cut_off :
    hangingScript.IsRepresentable ∧ hangingScript.pacing.Exact ∧
      ∃ w, hangingScript.run = some w ∧ Duration.ofMillis w.finished ≤ hangingScript.cutoff ∧
        w.result = .error (.timeout "present" (.ofSecs 6) (some "absent")) ∧
        ¬ hangingScript.HandsOn w ∧ Duration.ofSecs 6 = .ofMillis w.finished ∧
        ∃ look ∈ w.looks.getLast?, look.seen = none ∨
          ∃ ended result, look.seen = some (ended, result) ∧
            Duration.ofMillis ended = hangingScript.cutoff := by
  have representable : hangingScript.IsRepresentable := by decide
  have exact : hangingScript.pacing.Exact := by decide
  rcases run_ends_within_window hangingScript representable exact with ⟨w, hrun, -, hcutoff, window⟩
  have hresult : hangingScript.run.map (·.result) =
      some (.error (.timeout "present" (.ofSecs 6) (some "absent"))) := by cbv
  have hlook : hangingScript.run.map (·.looks.getLast?) = some (some ⟨1000, none⟩) := by cbv
  rw [hrun] at hresult hlook
  have own : ¬ hangingScript.HandsOn w := by
    rintro ⟨-, look, hlast, ended, error, hseen⟩
    cases (Option.some.inj hlook).symm.trans hlast
    cases hseen
  rcases window _ _ _ (Option.some.inj hresult) own with ⟨helapsed, -, -, hend⟩
  exact ⟨representable, exact, w, hrun, hcutoff, Option.some.inj hresult, own, helapsed,
    hend.1 (by decide)⟩

/-- The only observation fails with the error of another wait. -/
def nestedTimeout : Inquiry Unit (Option Snapshot) where
  pacing := ⟨.ofSecs 1, .ofSecs 2, false, by decide, by decide⟩
  condition := ⟨"present", Option.isSome⟩
  observe _ source := (.after 0 (.error (.timeout "inner" .zero none)) [], source)
  start := 0
  source := ()

/-- An error that is handed on may report less time than the timeout. -/
theorem nestedTimeout_reports_other_time :
    nestedTimeout.IsRepresentable ∧ nestedTimeout.pacing.Exact ∧
      ∃ w description elapsed last, nestedTimeout.run = some w ∧
        w.result = .error (.timeout description elapsed last) ∧
        ¬ nestedTimeout.pacing.timeout ≤ elapsed := by
  have representable : nestedTimeout.IsRepresentable := by decide
  rcases nestedTimeout.exists_course representable with ⟨w, k, now, source, seen, hrun, course⟩
  have hresult : w.result = .error (.timeout "inner" .zero none) :=
    (course.eq_of_decides (m := 0) (fun j hj => absurd hj (Nat.not_lt_zero j)) rfl (by decide)
      (by simp [Continues, nestedTimeout])).2.1
  exact ⟨representable, by decide, w, _, _, _, hrun, hresult, by decide⟩

end Run

end Inquiry

end Readiness
