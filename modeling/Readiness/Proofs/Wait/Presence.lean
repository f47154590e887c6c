import Readiness.Proofs.Bench.Answers
import Readiness.Script

/-!
# Presence — waiting until a resource is there and satisfies a condition

* `Wait.Unmet`: a result about a resource leaves the wait for it undecided. That the resource is
  absent always does, whatever the condition;
* `Wait.Settles`: how the last answer ends the wait, with one rule for each way;
* `Wait.forResource_settles`: a wait for a resource asks for this resource at each of its looks and
  for nothing else, no answer but the last one decides, and the last one settles it.
-/

namespace Readiness

namespace Wait

variable {σ : Type}

/-- The resource is absent, or the condition fails of it, or the request failed with an error that is
retried. -/
def Unmet (pacing : Pacing) (condition : Condition Snapshot) :
    Except Error (Option Snapshot) → Prop
  | .ok none => True
  | .ok (some snapshot) => condition.holds snapshot = false
  | .error _ => pacing.retriesErrors = true

theorem continues_iff_unmet {pacing : Pacing} {target : Target} {condition : Condition Snapshot}
    {result : Except Error (Option Snapshot)} :
    Continues pacing (resourceCondition target condition) result ↔
      Unmet pacing condition result := by
  rcases result with error | _ | snapshot
  · exact Iff.rfl
  · exact ⟨fun _ => trivial, fun _ => rfl⟩
  · exact Iff.rfl

/-- The error of a wait for a resource that gave up. -/
def resourceTimeout (target : Target) (condition : Condition Snapshot) (elapsed : Nat)
    (lastObserved : String) : Error :=
  .timeout (target.render ++ " " ++ condition.description) (.ofMillis elapsed) (some lastObserved)

/-- The ways in which the answer to a request made at `instant` ends a wait that began at `start`: the
answer, the result of the wait and the instant of its end. -/
inductive Settles (pacing : Pacing) (target : Target) (condition : Condition Snapshot)
    (start instant : Nat) :
    Observation (Option Snapshot) → Except Error Snapshot → Nat → Prop where
  /-- The resource is there, and the condition holds of it. -/
  | found {delay : Nat} {snapshot : Snapshot} {events : List Event}
      (holds : condition.holds snapshot = true) (inTime : instant + delay ≤ start + pacing.cutoffMillis) :
      Settles pacing target condition start instant (.after delay (.ok (some snapshot)) events)
        (.ok snapshot) (instant + delay)
  /-- The request fails, and the error is handed on. -/
  | handedOn {delay : Nat} {error : Error} {events : List Event}
      (retries : pacing.retriesErrors = false) :
      Settles pacing target condition start instant (.after delay (.error error) events)
        (.error error) (instant + delay)
  /-- The answer comes after the deadline and decides nothing. -/
  | expired {delay : Nat} {result : Except Error (Option Snapshot)} {events : List Event}
      (unmet : Unmet pacing condition result)
      (passed : start + pacing.timeoutMillis ≤ instant + delay) :
      Settles pacing target condition start instant (.after delay result events)
        (.error (resourceTimeout target condition (instant + delay - start) (describe result)))
        (instant + delay)
  /-- The answer does not come by the cutoff. -/
  | cutOff {answer : Observation (Option Snapshot)} {lastObserved : String}
      (late : ∀ delay result events, answer = .after delay result events →
        start + pacing.cutoffMillis < instant + delay) :
      Settles pacing target condition start instant answer
        (.error (resourceTimeout target condition pacing.cutoffMillis lastObserved))
        (start + pacing.cutoffMillis)

/-- The inquiry that a wait for a resource makes. -/
def resourceInquiry (source : Source σ) (pacing : Pacing) (target : Target)
    (condition : Condition Snapshot) (start : Nat) (s : σ) : Inquiry σ (Option Snapshot) :=
  ⟨pacing, resourceCondition target condition, fun now s => source.get now target s, start, s⟩

section Settling

variable {source : Source σ} {pacing : Pacing} {target : Target} {condition : Condition Snapshot}
  {start k now : Nat} {s next : σ} {w : Waited σ (Option Snapshot)}
  {seen : Option (Nat × Except Error (Option Snapshot))}

/-- No wait for a resource ends well without it. -/
theorem result_ne_absent
    (course : (resourceInquiry source pacing target condition start s).Course 0 w k now next seen) :
    w.result ≠ .ok none := by
  intro habsent
  rcases (hears_of_course course).decided none habsent with ⟨holds, -⟩
  cases holds

theorem settles_of_course
    (course : (resourceInquiry source pacing target condition start s).Course 0 w k now next seen) :
    Settles pacing target condition start now (source.get now target next).1
      (presentResult target w.result) w.finished := by
  have present := result_ne_absent course
  have hclosing := course.closing
  generalize w.result = final, w.finished = finished at hclosing present ⊢
  -- The rules of `Closing` read for the one resource.
  cases hclosing with
  | cutOff late =>
      refine .cutOff fun delay result events hanswer => late _ result ?_
      exact (congrArg (Observation.completed now) hanswer).trans rfl
  | decided completes inTime decides =>
      rcases Observation.eq_after_of_completed completes with ⟨delay, events, hanswer, rfl⟩
      rw [show (source.get now target next).1 = _ from hanswer]
      rcases final with error | _ | snapshot
      · exact .handedOn (Bool.eq_false_iff.2 decides)
      · exact absurd rfl present
      · exact .found (Bool.not_eq_false _ ▸ decides) inTime
  | expired completes inTime continues passed =>
      rcases Observation.eq_after_of_completed completes with ⟨delay, events, hanswer, rfl⟩
      rw [show (source.get now target next).1 = _ from hanswer]
      exact .expired (continues_iff_unmet.1 continues) passed

end Settling

/-- A wait for a resource returns unless its deadlines lie beyond the range of the clock. It asks for
this resource at each of its looks and for nothing else. The answers before the last one come before
the deadline, with the resource absent, with a resource of which the condition fails or with an error
that is retried, and the last one settles the wait. That the resource is gone in the end never
happens. -/
theorem forResource_settles (source : Source σ) (pacing : Pacing) (target : Target)
    (condition : Condition Snapshot) (start : Nat) (s : σ) :
    (isRepresentable pacing start = false →
      forResource source pacing target condition start s = none) ∧
    (isRepresentable pacing start = true →
      ∃ ended waited earlier instant answer,
        forResource source pacing target condition start s = some ended ∧
        (∀ journal, forResource source.journaled pacing target condition start (s, journal) =
          some ⟨ended.result, ended.finished,
            (ended.source, journal ++ entriesOf (.got target) (earlier ++ [(instant, answer)])),
            ended.events⟩) ∧
        (∀ before other, (before, other) ∈ earlier → ∃ delay result events,
          other = .after delay result events ∧ before + delay < start + pacing.timeoutMillis ∧
            Unmet pacing condition result) ∧
        Settles pacing target condition start instant answer ended.result ended.finished ∧
        run pacing (resourceCondition target condition) (fun now s => source.get now target s)
          start s = some waited ∧
        waited.looks.map (·.started) = (earlier ++ [(instant, answer)]).map (·.1) ∧
        waited.result ≠ .ok none) := by
  let q := resourceInquiry source pacing target condition start s
  constructor
  · intro unrepresentable
    have hrun : q.run = none := if_neg (by simp [unrepresentable, q, resourceInquiry])
    exact congrArg _ hrun
  · intro representable
    rcases q.exists_course representable with ⟨w, k, now, next, seen, hrun, course⟩
    have hlength : w.looks.length = k + 1 := course.length_looks
    have hconcat := course.reaches.answers_concat
    refine ⟨⟨presentResult target w.result, w.finished, w.source, w.events⟩, w, q.answers 0 k, now,
      (source.get now target next).1, ?_, ?_, ?_, ?_, hrun, ?_, result_ne_absent course⟩
    · exact congrArg _ hrun
    · intro journal
      have hrecorded :=
        q.run_recording (fun instant answer => (instant, Entry.got target answer)) journal
      rw [hrun, Option.map_some, hlength, hconcat] at hrecorded
      exact congrArg _ hrecorded
    · intro before other hmem
      rcases Inquiry.Undecided.of_mem course.reaches.2 hmem with
        ⟨delay, result, events, hanswer, early, continues⟩
      exact ⟨delay, result, events, hanswer, early, continues_iff_unmet.1 continues⟩
    · exact settles_of_course course
    · have hstarted := Inquiry.looks_started hrun
      rwa [hlength, hconcat] at hstarted

/-- Half a second between the requests, for at most three and a half. -/
def briskPacing : Pacing := ⟨.ofMillis 500, .ofMillis 3500, false, by decide, by decide⟩

/-- A timeout that leads beyond the end of the clock. -/
def endlessPacing : Pacing :=
  ⟨.ofMillis 500, .ofSecs 0x8000000000000000, false, briskPacing.interval_pos, by decide⟩

def database : Target := ⟨.deployment, some "e2e", "pg"⟩

def databaseLabelled (labels : Dict String) : Snapshot :=
  ⟨.deployment, some "e2e", "pg", labels, .null⟩

def unlabelled : Condition Snapshot :=
  Condition.negate ⟨"labelled", fun snapshot => snapshot.labels.isEmpty.not⟩

/-- A resource appears with a label and loses it half a second later. -/
def passingSource : Source Unit where
  get now _ source :=
    (.after 10 (.ok (if now < 500 then none
      else if now < 1000 then some (databaseLabelled [("state", "draining")])
      else some (databaseLabelled []))) [], source)
  list _ _ _ _ source := (.never, source)

def passingInquiry : Inquiry Unit (Option Snapshot) :=
  resourceInquiry passingSource briskPacing database unlabelled 0 ()

/-- A negated condition is not satisfied while the resource is absent, nor while it has a label. -/
theorem passingSource_is_awaited :
    isRepresentable briskPacing 0 = true ∧
      ∃ ended, forResource passingSource briskPacing database unlabelled 0 () = some ended ∧
        ended.result = .ok (databaseLabelled []) ∧ ended.finished = 1030 ∧
        (forResource passingSource.journaled briskPacing database unlabelled 0 ((), [])).map
          (·.source.2.length) = some 3 ∧
      isRepresentable endlessPacing 0 = false ∧
      forResource passingSource endlessPacing database unlabelled 0 () = none := by
  have representable : isRepresentable briskPacing 0 = true := by decide
  have unrepresentable : isRepresentable endlessPacing 0 = false := by decide
  have hendless :=
    (forResource_settles passingSource endlessPacing database unlabelled 0 ()).1 unrepresentable
  have hticks : passingInquiry.tickAt 1 = some (510, ()) ∧
      passingInquiry.tickAt 2 = some (1020, ()) := by
    simp [Inquiry.tickAt, passingInquiry, resourceInquiry, passingSource, Observation.completed,
      briskPacing, Pacing.intervalMillis, Pacing.timeoutMillis, Duration.timerMillis,
      Duration.ofMillis]
  have hdecides : passingInquiry.completion 2 = some (1030, .ok (some (databaseLabelled []))) :=
    Inquiry.completion_of_tickAt hticks.2
  have undecided : passingInquiry.Undecided 2 := by
    intro j hj
    obtain rfl | rfl : j = 0 ∨ j = 1 := by omega
    · exact ⟨10, .ok none, rfl, by decide, rfl⟩
    · exact ⟨520, _, Inquiry.completion_of_tickAt hticks.1, by decide, rfl⟩
  rcases passingInquiry.exists_course representable with ⟨w, k, now, next, seen, hrun, course⟩
  rcases course.eq_of_decides undecided hdecides (by decide) (by simp [Continues]; rfl) with
    ⟨rfl, hresult, hfinished⟩
  rcases (forResource_settles passingSource briskPacing database unlabelled 0 ()).2 representable with
    ⟨ended, waited, earlier, instant, answer, hended, hjournal, -, -, hwaited, hlooks, -⟩
  have hsame : w = waited := Option.some.inj (hrun.symm.trans hwaited)
  have hcount : w.looks.length = 3 := course.length_looks
  have hmap : passingInquiry.run.map _ = some ended := hended
  rw [hrun, Option.map_some, Option.some.injEq] at hmap
  refine ⟨representable, ended, hended, ?_, ?_, ?_, unrepresentable, hendless⟩
  · rw [← hmap, hresult]
    rfl
  · rw [← hmap, hfinished]
  · have hlengths := congrArg List.length hlooks
    rw [← hsame, List.length_map, List.length_map, hcount] at hlengths
    rw [hjournal, Option.map_some, List.nil_append, entriesOf, List.length_map, ← hlengths]

/-! ## Errors of other waits -/

/-- A source on which every request fails with the error of another wait. -/
def nestedSource : Source Unit where
  get _ _ source := (.now (.error (.timeout "inner" .zero none)), source)
  list _ _ _ _ source := (.never, source)

/-- A timeout that is handed on need not be about the resource. -/
theorem nestedSource_reports_other_description :
    ∃ ended description elapsed last,
      forResource nestedSource briskPacing database (.statusTrue Condition.available) 0 () =
        some ended ∧
      ended.result = .error (.timeout description elapsed last) ∧
      description ≠
        database.render ++ " " ++ (Condition.statusTrue Condition.available).description := by
  let q := resourceInquiry nestedSource briskPacing database (.statusTrue Condition.available) 0 ()
  have representable : q.IsRepresentable := by decide
  rcases q.exists_course representable with ⟨w, k, now, next, seen, hrun, course⟩
  have hresult : w.result = .error (.timeout "inner" .zero none) :=
    (course.eq_of_decides (m := 0) (fun j hj => absurd hj (Nat.not_lt_zero j)) rfl (by decide)
      (by simp [Continues, q, resourceInquiry, briskPacing])).2.1
  have hended : forResource nestedSource briskPacing database (.statusTrue Condition.available) 0 () =
      q.run.map fun w => ⟨presentResult database w.result, w.finished, w.source, w.events⟩ := rfl
  rw [hrun, Option.map_some] at hended
  refine ⟨_, "inner", .zero, none, hended, ?_, ?_⟩
  · rw [hresult]
    rfl
  · decide

end Wait

end Readiness
