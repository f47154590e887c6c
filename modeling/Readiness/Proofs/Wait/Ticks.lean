import Readiness.Wait

/-!
# Ticks — the observations of a wait, one by one

A wait is determined by its pacing, its condition, its start and the answers of its source. An
`Inquiry` puts these together. This file says which observations an inquiry makes and how it ends:

* `Inquiry.tickAt k` is the instant of observation `k`, counted from zero, with the state of the
  source at it, and `Inquiry.completion k` is when and how that observation completes;
* `Inquiry.Undecided k` says that every observation before `k` completed before the deadline and
  left the wait undecided;
* `Closing` has one rule for each way in which an observation ends the wait;
* `Inquiry.exists_course`: every wait makes the observations up to some number and closes with that
  one, and `Inquiry.Course.eq_of_decides`: this is the first that decides, if there is any.
-/

namespace Readiness

/-! ## Timers -/

namespace Duration

/-- The instant at which a timer set for `d` fires. -/
def firing (d : Duration) : Duration := .ofMillis d.timerMillis

theorem le_iff {a b : Duration} : a ≤ b ↔ a.nanos ≤ b.nanos := Iff.rfl

theorem lt_iff {a b : Duration} : a < b ↔ a.nanos < b.nanos := Iff.rfl

theorem ofMillis_le_ofMillis_iff {s t : Nat} : ofMillis s ≤ ofMillis t ↔ s ≤ t := by
  simp only [le_iff, ofMillis]
  omega

theorem ofMillis_inj {s t : Nat} : ofMillis s = ofMillis t ↔ s = t := by
  simp only [ofMillis, Duration.mk.injEq]
  omega

theorem ofMillis_add_ofMillis (s t : Nat) : (ofMillis s).add (ofMillis t) = ofMillis (s + t) :=
  congrArg Duration.mk (Nat.add_mul s t 1000000).symm

theorem ofMillis_lt_add_iff {t s : Nat} {d : Duration} :
    ofMillis t < (ofMillis s).add d ↔ t < s + d.timerMillis := by
  simp only [lt_iff, ofMillis, add, timerMillis]
  omega

theorem timerMillis_ofMillis_add (s : Nat) (d : Duration) :
    ((ofMillis s).add d).timerMillis = s + d.timerMillis := by
  simp only [ofMillis, add, timerMillis]
  omega

theorem add_assoc (a b c : Duration) : (a.add b).add c = a.add (b.add c) :=
  congrArg Duration.mk (Nat.add_assoc a.nanos b.nanos c.nanos)

end Duration

namespace Pacing

/-- Every timer of the wait fires exactly at its instant. -/
def Exact (pacing : Pacing) : Prop :=
  pacing.interval.firing = pacing.interval ∧ pacing.timeout.firing = pacing.timeout

instance (pacing : Pacing) : Decidable pacing.Exact :=
  inferInstanceAs (Decidable (_ ∧ _))

theorem timeoutMillis_le_cutoffMillis (pacing : Pacing) :
    pacing.timeoutMillis ≤ pacing.cutoffMillis := by
  simp only [timeoutMillis, cutoffMillis, Duration.timerMillis, Duration.add]
  omega

namespace Exact

variable {pacing : Pacing}

theorem nanos_eq (exact : pacing.Exact) :
    pacing.intervalMillis * 1000000 = pacing.interval.nanos :=
  congrArg Duration.nanos exact.1

theorem add_eq (exact : pacing.Exact) :
    pacing.timeout.add pacing.interval = .ofMillis pacing.cutoffMillis := by
  have htimeout : Duration.ofMillis pacing.timeoutMillis = pacing.timeout := exact.2
  have hinterval : Duration.ofMillis pacing.intervalMillis = pacing.interval := exact.1
  have hsum : pacing.timeout.add pacing.interval =
      .ofMillis (pacing.timeoutMillis + pacing.intervalMillis) := by
    rw [← Duration.ofMillis_add_ofMillis, htimeout, hinterval]
  rw [cutoffMillis, hsum, Duration.timerMillis_ofMillis]

end Exact

end Pacing

/-! ## What one observation does -/

namespace Observation

variable {α : Type}

/-- When and how an observation that begins at `now` completes. -/
def completed (now : Nat) : Observation α → Option (Nat × Except Error α)
  | never => none
  | after delay result _ => some (now + delay, result)

theorem eq_after_of_completed {now ended : Nat} {answer : Observation α} {result : Except Error α}
    (h : answer.completed now = some (ended, result)) :
    ∃ delay events, answer = .after delay result events ∧ ended = now + delay := by
  cases answer with
  | never => cases h
  | after delay other events =>
      cases h
      exact ⟨delay, events, rfl, rfl⟩

theorem le_of_completed {now ended : Nat} {answer : Observation α} {result : Except Error α}
    (h : answer.completed now = some (ended, result)) : now ≤ ended := by
  rcases eq_after_of_completed h with ⟨delay, events, -, rfl⟩
  exact Nat.le_add_right now delay

end Observation

namespace Wait

variable {σ α : Type}

@[simp] theorem looks_precede (look : Look α) (events : List Event) (rest : Waited σ α) :
    (precede look events rest).looks = look :: rest.looks := rfl

variable [Summary α]

/-- A result leaves the wait undecided: it is a state that does not satisfy the condition, or an
error that is retried. -/
def Continues (pacing : Pacing) (condition : Condition α) : Except Error α → Prop
  | .ok state => condition.holds state = false
  | .error _ => pacing.retriesErrors = true

def describe : Except Error α → String
  | .ok state => Summary.summary state
  | .error error => "observation error: " ++ error.message

theorem judge_goOn {pacing : Pacing} {condition : Condition α} {result : Except Error α}
    {text : String} (h : judge pacing condition result = .goOn text) :
    Continues pacing condition result ∧ text = describe result := by
  cases result with
  | ok state =>
      cases hs : condition.holds state with
      | true => rw [judge, hs] at h; cases h
      | false => rw [judge, hs] at h; cases h; exact ⟨hs, rfl⟩
  | error error =>
      cases hr : pacing.retriesErrors with
      | true => rw [judge, hr] at h; cases h; exact ⟨hr, rfl⟩
      | false => rw [judge, hr] at h; cases h

theorem judge_finish {pacing : Pacing} {condition : Condition α} {result final : Except Error α}
    (h : judge pacing condition result = .finish final) :
    ¬ Continues pacing condition result ∧ final = result := by
  cases result with
  | ok state =>
      cases hs : condition.holds state with
      | true => rw [judge, hs] at h; cases h; exact ⟨by simp [Continues, hs], rfl⟩
      | false => rw [judge, hs] at h; cases h
  | error error =>
      cases hr : pacing.retriesErrors with
      | true => rw [judge, hr] at h; cases h
      | false => rw [judge, hr] at h; cases h; exact ⟨by simp [Continues, hr], rfl⟩

end Wait

/-! ## Inquiries -/

/-- Everything on which the course of a wait depends. -/
structure Inquiry (σ α : Type) where
  pacing : Pacing
  condition : Condition α
  observe : Nat → σ → Observation α × σ
  start : Nat
  source : σ

namespace Inquiry

open Wait

variable {σ α : Type}

def deadline (q : Inquiry σ α) : Duration := (Duration.ofMillis q.start).add q.pacing.timeout

/-- The instant at which an observation under way is cut off. -/
def cutoff (q : Inquiry σ α) : Duration := q.deadline.add q.pacing.interval

def IsRepresentable (q : Inquiry σ α) : Prop := isRepresentable q.pacing q.start = true

instance (q : Inquiry σ α) : Decidable q.IsRepresentable :=
  inferInstanceAs (Decidable (isRepresentable q.pacing q.start = true))

def run [Summary α] (q : Inquiry σ α) : Option (Waited σ α) :=
  Wait.run q.pacing q.condition q.observe q.start q.source

/-- The instant of observation `k` and the state of the source at it. Each observation comes an
interval after the completion of the one before it, or at the deadline when that is sooner. -/
def tickAt (q : Inquiry σ α) : Nat → Option (Nat × σ)
  | 0 => some (q.start, q.source)
  | k + 1 =>
      (q.tickAt k).bind fun (now, source) =>
        ((q.observe now source).1.completed now).map fun (ended, _) =>
          (min (ended + q.pacing.intervalMillis) (q.start + q.pacing.timeoutMillis),
            (q.observe now source).2)

/-- When and how observation `k` completes. -/
def completion (q : Inquiry σ α) (k : Nat) : Option (Nat × Except Error α) :=
  (q.tickAt k).bind fun (now, source) => (q.observe now source).1.completed now

/-- Every observation before `k` completed before the deadline and left the wait undecided. -/
def Undecided (q : Inquiry σ α) (k : Nat) : Prop :=
  ∀ j < k, ∃ ended result, q.completion j = some (ended, result) ∧
    Duration.ofMillis ended < q.deadline ∧ Continues q.pacing q.condition result

/-- The wait makes observation `k`, at the instant `now` and with the source in the state `source`.
-/
def Reaches (q : Inquiry σ α) (k now : Nat) (source : σ) : Prop :=
  q.tickAt k = some (now, source) ∧ q.Undecided k

def lastSeen [Summary α] (q : Inquiry σ α) : Nat → Option String
  | 0 => none
  | k + 1 => (q.completion k).map fun (_, result) => describe result

/-- The ways in which an observation begun at `now` ends the wait: what the wait saw of it, the
result and the instant of the end. `last` describes the observation before. -/
inductive Closing [Summary α] (q : Inquiry σ α) (last : Option String) (now : Nat) (source : σ) :
    Option (Nat × Except Error α) → Except Error α → Nat → Prop where
  /-- The observation does not complete by the cutoff. -/
  | cutOff
      (late : ∀ ended result, (q.observe now source).1.completed now = some (ended, result) →
        q.start + q.pacing.cutoffMillis < ended) :
      Closing q last now source none
        (.error (gaveUp q.condition q.pacing.cutoffMillis
          (some (last.getD "observation did not complete"))))
        (q.start + q.pacing.cutoffMillis)
  /-- The observation completes with a result that decides. -/
  | decided {ended : Nat} {result : Except Error α}
      (completes : (q.observe now source).1.completed now = some (ended, result))
      (inTime : ended ≤ q.start + q.pacing.cutoffMillis)
      (decides : ¬ Continues q.pacing q.condition result) :
      Closing q last now source (some (ended, result)) result ended
  /-- The observation decides nothing and the deadline has passed. -/
  | expired {ended : Nat} {result : Except Error α}
      (completes : (q.observe now source).1.completed now = some (ended, result))
      (inTime : ended ≤ q.start + q.pacing.cutoffMillis)
      (continues : Continues q.pacing q.condition result)
      (passed : q.start + q.pacing.timeoutMillis ≤ ended) :
      Closing q last now source (some (ended, result))
        (.error (gaveUp q.condition (ended - q.start) (some (describe result)))) ended

/-- The wait `w`, which leaves the first `skipped` observations out, makes those up to `k` and
closes with that one, of which it saw `seen`. -/
structure Course [Summary α] (q : Inquiry σ α) (skipped : Nat) (w : Waited σ α) (k now : Nat)
    (source : σ) (seen : Option (Nat × Except Error α)) : Prop where
  reaches : q.Reaches k now source
  closing : Closing q (q.lastSeen k) now source seen w.result w.finished
  asked : w.source = (q.observe now source).2
  lastLook : w.looks.getLast? = some ⟨now, seen⟩
  length_looks : w.looks.length + skipped = k + 1

namespace Closing

variable [Summary α] {q : Inquiry σ α} {last : Option String} {now finished ended : Nat}
  {source : σ} {seen : Option (Nat × Except Error α)} {final result : Except Error α}

theorem eq_of_decides (h : Closing q last now source seen final finished)
    (completes : (q.observe now source).1.completed now = some (ended, result))
    (inTime : ended ≤ q.start + q.pacing.cutoffMillis)
    (decides : ¬ Continues q.pacing q.condition result) : final = result ∧ finished = ended := by
  cases h with
  | cutOff late =>
      -- A cut off observation does not complete in time.
      exact absurd (late ended result completes) (Nat.not_lt_of_le inTime)
  | decided completed _ _ =>
      rw [completes] at completed
      cases completed
      exact ⟨rfl, rfl⟩
  | expired completed _ continues _ =>
      -- The wait gave up only because the result did not decide.
      rw [completes] at completed
      cases completed
      exact absurd continues decides

/-- A wait that closes with an observation before the deadline has its decision from it. -/
theorem not_continues (h : Closing q last now source seen final finished)
    (completes : (q.observe now source).1.completed now = some (ended, result))
    (early : ended < q.start + q.pacing.timeoutMillis) :
    ¬ Continues q.pacing q.condition result := by
  -- The two other ways to close need a completion at the deadline or later.
  have hcutoff := q.pacing.timeoutMillis_le_cutoffMillis
  cases h with
  | cutOff late =>
      have := late ended result completes
      omega
  | decided completed _ decides =>
      rw [completes] at completed
      cases completed
      exact decides
  | expired completed _ _ passed =>
      rw [completes] at completed
      cases completed
      omega

end Closing

/-! ## From one observation to the next -/

theorem completion_of_tickAt {q : Inquiry σ α} {k now : Nat} {source : σ}
    (h : q.tickAt k = some (now, source)) :
    q.completion k = (q.observe now source).1.completed now := by
  simp [completion, h]

theorem tickAt_succ {q : Inquiry σ α} {k now ended : Nat} {source : σ} {result : Except Error α}
    (h : q.tickAt k = some (now, source))
    (completes : (q.observe now source).1.completed now = some (ended, result)) :
    q.tickAt (k + 1) =
      some (min (ended + q.pacing.intervalMillis) (q.start + q.pacing.timeoutMillis),
        (q.observe now source).2) := by
  simp [tickAt, h, completes]

theorem ofMillis_lt_deadline_iff {q : Inquiry σ α} {t : Nat} :
    Duration.ofMillis t < q.deadline ↔ t < q.start + q.pacing.timeoutMillis :=
  Duration.ofMillis_lt_add_iff

theorem tickAt_bounds {q : Inquiry σ α} {k now : Nat} {source : σ}
    (h : q.tickAt k = some (now, source)) :
    q.start ≤ now ∧ now ≤ q.start + q.pacing.timeoutMillis := by
  induction k generalizing now source with
  | zero =>
      cases h
      omega
  | succ k ih =>
      simp only [tickAt, Option.bind_eq_some_iff, Option.map_eq_some_iff] at h
      rcases h with ⟨⟨before, state⟩, hbefore, ⟨ended, result⟩, hended, hnow⟩
      cases hnow
      -- The sleep ends at the deadline at the latest, and no earlier than it began.
      have hstart := (ih hbefore).1
      have hlater := Observation.le_of_completed hended
      omega

namespace Reaches

theorem start (q : Inquiry σ α) : q.Reaches 0 q.start q.source :=
  ⟨rfl, fun j hj => absurd hj (Nat.not_lt_zero j)⟩

/-- The wait goes on after an observation that completed before the deadline and decided nothing. -/
theorem next {q : Inquiry σ α} {k now ended : Nat} {source after : σ} {answer : Observation α}
    {result : Except Error α} (h : q.Reaches k now source)
    (asked : q.observe now source = (answer, after))
    (completes : answer.completed now = some (ended, result))
    (early : ended < q.start + q.pacing.timeoutMillis)
    (continues : Continues q.pacing q.condition result) :
    q.Reaches (k + 1)
      (min (ended + q.pacing.intervalMillis) (q.start + q.pacing.timeoutMillis)) after := by
  rcases h with ⟨htick, undecided⟩
  have hcompleted : (q.observe now source).1.completed now = some (ended, result) := by
    rw [asked]
    exact completes
  have hafter : (q.observe now source).2 = after := by rw [asked]
  refine ⟨hafter ▸ tickAt_succ htick hcompleted, ?_⟩
  -- The observations before `k + 1` are those before `k` and `k` itself.
  intro j hj
  rcases Nat.lt_succ_iff_lt_or_eq.1 hj with hlt | rfl
  · exact undecided j hlt
  · exact ⟨ended, result, (completion_of_tickAt htick).trans hcompleted,
      ofMillis_lt_deadline_iff.2 early, continues⟩

theorem prev {q : Inquiry σ α} {k now : Nat} {source : σ} (h : q.Reaches (k + 1) now source) :
    ∃ before state ended result, q.Reaches k before state ∧
      (q.observe before state).1.completed before = some (ended, result) ∧
      Continues q.pacing q.condition result ∧
      now = min (ended + q.pacing.intervalMillis) (q.start + q.pacing.timeoutMillis) := by
  rcases h with ⟨htick, undecided⟩
  simp only [tickAt, Option.bind_eq_some_iff, Option.map_eq_some_iff] at htick
  rcases htick with ⟨⟨before, state⟩, hbefore, ⟨ended, result⟩, hended, hnow⟩
  cases hnow
  -- What `Undecided` says of observation `k` is about the completion found above.
  rcases undecided k (Nat.lt_succ_self k) with ⟨t, r, hcompletion, -, continues⟩
  rw [completion_of_tickAt hbefore, hended] at hcompletion
  cases hcompletion
  have hreaches : q.Reaches k before state :=
    ⟨hbefore, fun j hj => undecided j (Nat.lt_succ_of_lt hj)⟩
  exact ⟨before, state, ended, result, hreaches, hended, continues, rfl⟩

end Reaches

/-! ## The course of a wait -/

section Course

variable [Summary α]

theorem Course.precede {q : Inquiry σ α} {k m now : Nat} {source : σ}
    {seen : Option (Nat × Except Error α)} {w : Waited σ α}
    (h : Course q (k + 1) w m now source seen) (look : Look α) (events : List Event) :
    Course q k (Wait.precede look events w) m now source seen where
  reaches := h.reaches
  closing := h.closing
  asked := h.asked
  lastLook := by
    rw [looks_precede, List.getLast?_cons, h.lastLook]
    rfl
  length_looks := by
    have := h.length_looks
    simp only [looks_precede, List.length_cons]
    omega

theorem Reaches.course {q : Inquiry σ α} {k now finished : Nat} {source next : σ}
    {seen : Option (Nat × Except Error α)} {result : Except Error α}
    (reaches : q.Reaches k now source)
    (closing : Closing q (q.lastSeen k) now source seen result finished)
    (asked : next = (q.observe now source).2) (events : List Event) :
    Course q k (conclude ⟨now, seen⟩ events result finished next) k now source seen where
  reaches := reaches
  closing := closing
  asked := asked
  lastLook := rfl
  length_looks := Nat.add_comm 1 k

/-- From any observation that the wait reaches, it makes the observations up to some number and
closes with that one. -/
theorem rounds_course (q : Inquiry σ α) (tick : Nat) {k now : Nat} {last : Option String}
    {source : σ} (reaches : q.Reaches k now source) (hlast : last = q.lastSeen k) :
    ∃ m now' source' seen,
      Course q k (rounds q.pacing q.condition q.observe q.start tick last now source)
        m now' source' seen := by
  -- The cases are the branches of the loop; the observation `k` at its head is the invariant.
  fun_induction rounds q.pacing q.condition q.observe q.start tick last now source
    generalizing k with
  | case1 tick last now source next hobserve =>
      -- The observation never completes.
      refine ⟨k, now, source, none, reaches.course ?_ (by rw [hobserve]) []⟩
      rw [← hlast]
      apply Closing.cutOff
      intro ended result hcompleted
      simp [hobserve, Observation.completed] at hcompleted
  | case2 tick last now source delay result events next hobserve ended =>
      -- The observation completes after the cutoff.
      rename_i hlate
      refine ⟨k, now, source, none, reaches.course ?_ (by rw [hobserve]) []⟩
      rw [← hlast]
      apply Closing.cutOff
      intro other found hcompleted
      rw [hobserve] at hcompleted
      cases hcompleted
      exact hlate
  | case3 tick last now source delay result events next hobserve ended htime look all final =>
      -- Its result decides.
      rename_i hjudge
      have hcompleted : (q.observe now source).1.completed now = some (ended, result) := by
        rw [hobserve]; rfl
      rcases judge_finish hjudge with ⟨decides, rfl⟩
      have closing : Closing q (q.lastSeen k) now source _ _ _ :=
        .decided hcompleted (Nat.le_of_not_lt htime) decides
      exact ⟨k, now, source, some (ended, final), reaches.course closing (by rw [hobserve]) all⟩
  | case4 tick last now source deadline delay result events next hobserve ended htime look all text
      hjudge hearly =>
      -- The wait goes on: the next observation takes the place of `k`.
      rename_i ih
      have hcompleted : (q.observe now source).1.completed now = some (ended, result) := by
        rw [hobserve]; rfl
      rcases judge_goOn hjudge with ⟨continues, rfl⟩
      have hnext := reaches.next hobserve rfl hearly continues
      have hseen : some (describe result) = q.lastSeen (k + 1) := by
        simp [lastSeen, completion_of_tickAt reaches.1, hcompleted]
      rcases ih hnext hseen with ⟨m, now', source', seen, course⟩
      exact ⟨m, now', source', seen, course.precede look all⟩
  | case5 tick last now source deadline delay result events next hobserve ended htime look all text
      hjudge =>
      -- The deadline has passed.
      rename_i hpassed
      have hcompleted : (q.observe now source).1.completed now = some (ended, result) := by
        rw [hobserve]; rfl
      rcases judge_goOn hjudge with ⟨continues, rfl⟩
      have closing : Closing q (q.lastSeen k) now source _ _ _ :=
        .expired hcompleted (Nat.le_of_not_lt htime) continues (Nat.le_of_not_lt hpassed)
      exact ⟨k, now, source, some (ended, result), reaches.course closing (by rw [hobserve]) all⟩

/-- Every wait whose deadlines are representable returns, and it has a course. -/
theorem exists_course (q : Inquiry σ α) (representable : q.IsRepresentable) :
    ∃ w k now source seen, q.run = some w ∧ Course q 0 w k now source seen := by
  have hrun : q.run =
      some (rounds q.pacing q.condition q.observe q.start 1 none q.start q.source) :=
    if_pos representable
  rcases rounds_course q 1 (Reaches.start q) rfl with ⟨k, now, source, seen, course⟩
  exact ⟨_, k, now, source, seen, hrun, course⟩

/-- A result that is seen in time and decides, after observations that did not, is the result of
the wait. -/
theorem Course.eq_of_decides {q : Inquiry σ α} {w : Waited σ α} {k now m ended : Nat} {source : σ}
    {seen : Option (Nat × Except Error α)} {result : Except Error α}
    (course : Course q 0 w k now source seen) (undecided : q.Undecided m)
    (completes : q.completion m = some (ended, result))
    (inTime : ended ≤ q.start + q.pacing.cutoffMillis)
    (decides : ¬ Continues q.pacing q.condition result) :
    m = k ∧ w.result = result ∧ w.finished = ended := by
  rcases course.reaches with ⟨htick, before⟩
  have hcompletion := completion_of_tickAt htick
  rcases Nat.lt_trichotomy m k with hlt | rfl | hgt
  · -- The wait went on after observation `m`.
    rcases before m hlt with ⟨t, r, hm, -, continues⟩
    rw [completes] at hm
    cases hm
    exact absurd continues decides
  · refine ⟨rfl, course.closing.eq_of_decides ?_ inTime decides⟩
    rw [← hcompletion, completes]
  · -- The wait closed before observation `m`.
    rcases undecided k hgt with ⟨t, r, hk, early, continues⟩
    rw [hcompletion] at hk
    exact absurd continues
      (course.closing.not_continues hk (ofMillis_lt_deadline_iff.1 early))

end Course

end Inquiry

end Readiness
