import Readiness.Proofs.Wait.Ticks

/-!
# Detection — a lasting success is not missed

The source observes a resource, and the condition begins to hold of this resource at some instant
that is no later than the deadline.

* `HoldsFrom`: the condition fails of the resource before an instant and holds of it from then on;
* `Inquiry.Reports`: the observations of a wait take at most one interval and report the resource as
  it is when they complete;
* `run_detects_lasting_success`: the wait returns a state that satisfies the condition, at most two
  intervals after the condition began to hold.
-/

namespace Readiness

open Wait

/-- The condition fails of the resource before the instant `since` and holds of it from then on. -/
structure HoldsFrom {α : Type} (condition : Condition α) (resource : Nat → α) (since : Duration) :
    Prop where
  before : ∀ t, Duration.ofMillis t < since → condition.holds (resource t) = false
  lasting : ∀ t, since ≤ Duration.ofMillis t → condition.holds (resource t) = true

namespace Inquiry

variable {σ α : Type}

/-- Every observation that the wait makes takes at most one interval and reports the resource as it
is at its completion. When errors are retried, an observation that completes before the instant
`since` may fail instead. -/
def Reports (q : Inquiry σ α) (resource : Nat → α) (since : Duration) : Prop :=
  ∀ k now source, q.Reaches k now source →
    ∃ delay result events, (q.observe now source).1 = .after delay result events ∧
      Duration.ofMillis delay ≤ q.pacing.interval ∧
      (result = .ok (resource (now + delay)) ∨
        q.pacing.retriesErrors = true ∧ Duration.ofMillis (now + delay) < since ∧
          ∃ error, result = .error error)

variable {q : Inquiry σ α} {resource : Nat → α} {since : Duration}

namespace Reports

/-- What an observation tells: it completes within one interval, and its result leaves the wait
undecided exactly when it completes too early. -/
theorem completes (reports : q.Reports resource since)
    (turns : HoldsFrom q.condition resource since) {k now : Nat} {source : σ}
    (reaches : q.Reaches k now source) :
    ∃ delay result, (q.observe now source).1.completed now = some (now + delay, result) ∧
      Duration.ofMillis delay ≤ q.pacing.interval ∧
      (Continues q.pacing q.condition result ↔ Duration.ofMillis (now + delay) < since) ∧
      (since ≤ Duration.ofMillis (now + delay) → result = .ok (resource (now + delay))) := by
  rcases reports k now source reaches with ⟨delay, result, events, hobserve, hdelay, hresult⟩
  refine ⟨delay, result, by rw [hobserve]; rfl, hdelay, ?_, ?_⟩
  -- A state tells of the condition at the completion, and a failure is too early by assumption.
  · rcases hresult with rfl | ⟨retries, early, error, rfl⟩
    · constructor
      · intro continues
        refine Nat.lt_of_not_le fun late => ?_
        rw [Continues, turns.lasting _ late] at continues
        cases continues
      · exact turns.before (now + delay)
    · exact ⟨fun _ => early, fun _ => retries⟩
  · intro late
    rcases hresult with rfl | ⟨-, early, -⟩
    · rfl
    · exact absurd late (Nat.not_le_of_lt early)

/-- An observation begins at the start, or at most one interval after an instant at which the
condition did not hold yet. -/
theorem begins (reports : q.Reports resource since) (turns : HoldsFrom q.condition resource since)
    {k now : Nat} {source : σ} (reaches : q.Reaches k now source) :
    now = q.start ∨
      ∃ ended, Duration.ofMillis ended < since ∧ now ≤ ended + q.pacing.intervalMillis := by
  cases k with
  | zero =>
      cases reaches.1
      exact .inl rfl
  | succ k =>
      -- The observation before this one left the wait undecided, so it completed too early.
      rcases reaches.prev with ⟨before, state, ended, result, hbefore, hended, continues, hnow⟩
      rcases reports.completes turns hbefore with ⟨delay, other, hcompleted, -, hcontinues, -⟩
      rw [hended] at hcompleted
      cases hcompleted
      exact .inr ⟨before + delay, hcontinues.1 continues, by omega⟩

end Reports

/-- With exact timers, an observation of at most one interval completes at most two intervals after
the condition began to hold. -/
theorem Reports.ended_le (reports : q.Reports resource since)
    (turns : HoldsFrom q.condition resource since) (exact : q.pacing.Exact)
    (start_le : Duration.ofMillis q.start ≤ since) {k now delay : Nat} {source : σ}
    (reaches : q.Reaches k now source) (hdelay : Duration.ofMillis delay ≤ q.pacing.interval) :
    Duration.ofMillis (now + delay) ≤ since.add (q.pacing.interval.add q.pacing.interval) := by
  -- One interval until the observation begins, and one until it completes.
  rw [Duration.le_iff] at start_le hdelay
  have hbegins : now * 1000000 ≤ since.nanos + q.pacing.interval.nanos := by
    rcases reports.begins turns reaches with rfl | ⟨ended, early, hnow⟩
    · exact Nat.le_add_right_of_le start_le
    · calc
        now * 1000000 ≤ (ended + q.pacing.intervalMillis) * 1000000 :=
          Nat.mul_le_mul_right _ hnow
        _ = ended * 1000000 + q.pacing.interval.nanos := by
          rw [Nat.add_mul, exact.nanos_eq]
        _ ≤ since.nanos + q.pacing.interval.nanos :=
          Nat.add_le_add_right (Nat.le_of_lt early) _
  calc
    (now + delay) * 1000000 = now * 1000000 + delay * 1000000 := Nat.add_mul _ _ _
    _ ≤ since.nanos + q.pacing.interval.nanos + q.pacing.interval.nanos :=
      Nat.add_le_add hbegins hdelay
    _ = since.nanos + (q.pacing.interval.nanos + q.pacing.interval.nanos) := Nat.add_assoc _ _ _

/-- An observation that begins by the deadline and takes at most one interval is not cut off. -/
theorem le_cutoffMillis_of_le_interval {pacing : Pacing} {delay : Nat}
    (h : Duration.ofMillis delay ≤ pacing.interval) :
    pacing.timeoutMillis + delay ≤ pacing.cutoffMillis := by
  simp only [Duration.le_iff, Duration.ofMillis] at h
  simp only [Pacing.timeoutMillis, Pacing.cutoffMillis, Duration.timerMillis, Duration.add]
  omega

/-- A condition that begins to hold at most a timeout after the start, and lasts, is detected: the
wait returns a state that satisfies it. With exact timers this happens at most two intervals after
the condition began to hold. -/
theorem run_detects_lasting_success [Summary α] (q : Inquiry σ α) (resource : Nat → α)
    (tau : Duration) (representable : q.IsRepresentable) (tau_le : tau ≤ q.pacing.timeout)
    (turns : HoldsFrom q.condition resource ((Duration.ofMillis q.start).add tau))
    (reports : q.Reports resource ((Duration.ofMillis q.start).add tau)) :
    ∃ w state, q.run = some w ∧ w.result = .ok state ∧ q.condition.holds state = true ∧
      (q.pacing.Exact → Duration.ofMillis w.finished ≤
        ((Duration.ofMillis q.start).add tau).add (q.pacing.interval.add q.pacing.interval)) := by
  rcases q.exists_course representable with ⟨w, k, now, source, seen, hrun, course⟩
  obtain ⟨delay, result, hcompleted, hdelay, hcontinues, hresult⟩ :=
    reports.completes turns course.reaches
  have hdeadline := (tickAt_bounds course.reaches.1).2
  have hcutoff := le_cutoffMillis_of_le_interval hdelay
  by_cases late : (Duration.ofMillis q.start).add tau ≤ Duration.ofMillis (now + delay)
  · -- The condition holds at the completion, which the cutoff does not prevent.
    have decides : ¬ Continues q.pacing q.condition result := fun continues =>
      Nat.not_le_of_lt (hcontinues.1 continues) late
    obtain ⟨hw, hfinished⟩ :=
      course.closing.eq_of_decides hcompleted (by omega) decides
    refine ⟨w, resource (now + delay), hrun, hw.trans (hresult late), turns.lasting _ late, ?_⟩
    intro exact
    rw [hfinished]
    exact reports.ended_le turns exact (Nat.le_add_right _ _) course.reaches hdelay
  · -- An observation that completes before the condition holds is not the last one.
    have early : Duration.ofMillis (now + delay) < (Duration.ofMillis q.start).add tau :=
      Nat.lt_of_not_le late
    have before_deadline : Duration.ofMillis (now + delay) < q.deadline :=
      Nat.lt_of_lt_of_le early (Nat.add_le_add_left tau_le _)
    have decides := course.closing.not_continues hcompleted
      (ofMillis_lt_deadline_iff.1 before_deadline)
    exact absurd (hcontinues.2 early) decides

/-- The resource appears half a second before the deadline, between two regular observations. -/
def lateArrival : Inquiry Unit (Option Snapshot) where
  pacing := ⟨.ofSecs 3, .ofSecs 10, false, by decide, by decide⟩
  condition := ⟨"present", Option.isSome⟩
  observe now source :=
    (.after 200 (.ok (if now + 200 < 9500 then none else some default)) [], source)
  start := 0
  source := ()

theorem lateArrival_is_detected :
    lateArrival.IsRepresentable ∧ lateArrival.pacing.Exact ∧
      Duration.ofMillis 9500 ≤ lateArrival.pacing.timeout ∧
      ∃ w state, lateArrival.run = some w ∧ w.result = .ok state ∧ state.isSome = true ∧
        Duration.ofMillis w.finished ≤ .ofMillis 15500 := by
  have representable : lateArrival.IsRepresentable := by decide
  have exact : lateArrival.pacing.Exact := by decide
  have tau_le : Duration.ofMillis 9500 ≤ lateArrival.pacing.timeout := by decide
  let resource : Nat → Option Snapshot := fun t => if t < 9500 then none else some default
  have turns : HoldsFrom lateArrival.condition resource
      ((Duration.ofMillis lateArrival.start).add (.ofMillis 9500)) := by
    constructor
    · intro t early
      have : t < 0 + 9500 := Duration.ofMillis_lt_add_iff.1 early
      simp [resource, this, lateArrival]
    · intro t late
      have : ¬ t < 0 + 9500 := fun h => Nat.not_le_of_lt (Duration.ofMillis_lt_add_iff.2 h) late
      simp [resource, this, lateArrival]
  have reports : lateArrival.Reports resource
      ((Duration.ofMillis lateArrival.start).add (.ofMillis 9500)) :=
    fun k now source _ => ⟨200, _, [], rfl, by decide, .inl rfl⟩
  obtain ⟨w, state, hrun, hresult, holds, bound⟩ :=
    run_detects_lasting_success lateArrival resource (.ofMillis 9500) representable tau_le turns
      reports
  exact ⟨representable, exact, tau_le, w, state, hrun, hresult, holds, bound exact⟩

end Inquiry

end Readiness
