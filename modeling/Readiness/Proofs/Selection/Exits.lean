import Readiness.Proofs.Bench.Journal
import Readiness.Proofs.Selection.Choice
import Readiness.Script

/-!
# Exits — the ways in which a selection ends

* `Concludes`: what a selection makes of the answer to its listing, with one rule for each way in
  which it ends after asking;
* `select_lists_once`: a selection whose query accepts nothing for some key ends without asking; any
  other asks for one listing and concludes from the answer.
-/

namespace Readiness

variable {σ : Type}

namespace LabelQuery

theorem isUnsatisfiable_iff {query : LabelQuery} :
    query.isUnsatisfiable = true ↔ ∃ clause ∈ query.required, clause.2 = [] := by
  simp only [isUnsatisfiable, List.any_eq_true, List.isEmpty_iff]

theorem selector?_eq (query : LabelQuery) :
    query.selector? = if query.required = [] then none else some query.render := by
  simp only [selector?, isEmpty, List.isEmpty_iff]

end LabelQuery

theorem shownSelector_eq (query : LabelQuery) :
    shownSelector query = if query.required = [] then "<everything>" else query.render := by
  rw [shownSelector, query.selector?_eq]
  split <;> rfl

/-- What a selection makes of the answer to its listing. -/
inductive Concludes (kind : Kind) (ns : String) (query : LabelQuery) :
    Observation (List Snapshot) → Observation Endpoint → Prop
  /-- The listing never comes. -/
  | hangs : Concludes kind ns query .never .never
  /-- The listing fails, and the error is handed on. -/
  | fails {delay : Nat} {error : Error} {events : List Event} :
      Concludes kind ns query (.after delay (.error error) events)
        (.after delay (.error error) events)
  /-- No candidate meets the query. -/
  | findsNone {delay : Nat} {candidates : List Snapshot} {events : List Event}
      (unmet : ∀ candidate ∈ candidates, ¬ query.IsMet candidate.labels) :
      Concludes kind ns query (.after delay (.ok candidates) events)
        (.after delay (.error (.notFound kind.name ns
          (if query.required = [] then "<everything>" else query.render))) events)
  /-- The candidate with the smallest name becomes the endpoint. -/
  | finds {delay : Nat} {candidates : List Snapshot} {events : List Event} {chosen : Snapshot}
      (picks : query.Picks candidates chosen) (more : List Event) :
      Concludes kind ns query (.after delay (.ok candidates) events)
        (.after delay
          (.ok ⟨chosen.kind, chosen.namespaceName.getD ns, chosen.name, chosen.labels⟩)
          (events ++ more))

/-- A listing that was answered leads to an endpoint, or nothing was found in it. -/
theorem concludes_of_listed (kind : Kind) (ns : String) (query : LabelQuery) (delay : Nat)
    (candidates : List Snapshot) (events : List Event) :
    Concludes kind ns query (.after delay (.ok candidates) events)
      (.after delay (selectFrom kind ns query candidates)
        (events ++ selectionEvents kind ns query candidates)) := by
  cases hchoice : choose query candidates with
  | none =>
      rw [selectFrom, selectionEvents, hchoice, shownSelector_eq]
      simp only [List.append_nil]
      exact .findsNone (choose_eq_none_iff.1 hchoice)
  | some chosen =>
      rw [selectFrom, hchoice]
      exact .finds (choose_eq_some_iff.1 hchoice) _

theorem select_of_satisfiable (source : Source σ) (kind : Kind) (ns : String) {query : LabelQuery}
    (satisfiable : query.isUnsatisfiable = false) (now : Nat) (s : σ) :
    Concludes kind ns query (source.list now kind ns query.selector? s).1
        (select source kind ns query now s).1 ∧
      (select source kind ns query now s).2 = (source.list now kind ns query.selector? s).2 := by
  rw [select, satisfiable]
  rcases source.list now kind ns query.selector? s with ⟨_ | ⟨delay, error | candidates, events⟩, next⟩
  · exact ⟨.hangs, rfl⟩
  · exact ⟨.fails, rfl⟩
  · exact ⟨concludes_of_listed kind ns query delay candidates events, rfl⟩

theorem select_of_unsatisfiable (source : Source σ) (kind : Kind) (ns : String) {query : LabelQuery}
    (unsatisfiable : query.isUnsatisfiable = true) (now : Nat) (s : σ) :
    select source kind ns query now s =
      (.now (.error (.notFound kind.name ns query.render)), s) := if_pos unsatisfiable

/-- A journal has the one listing that was asked for, if any was, and changes nothing else. -/
theorem select_journaled (source : Source σ) (kind : Kind) (ns : String) (query : LabelQuery)
    (now : Nat) (s : σ) (journal : Journal) :
    select source.journaled kind ns query now (s, journal) =
      ((select source kind ns query now s).1, (select source kind ns query now s).2,
        if query.isUnsatisfiable = true then journal
        else journal ++
          [(now, .listed kind ns query.selector? (source.list now kind ns query.selector? s).1)]) := by
  cases satisfiable : query.isUnsatisfiable with
  | true => simp only [select, satisfiable, if_true]
  | false =>
      rcases hlist : source.list now kind ns query.selector? s with
        ⟨_ | ⟨delay, error | candidates, events⟩, next⟩ <;>
      simp only [select, satisfiable, Bool.false_eq_true, if_false, Source.journaled, journaling, hlist]

/-- A selection whose query has a key without values fails without asking its source. Any other asks
once, for a listing of its kind and namespace, with the query as the selector unless it requires
nothing. It hands an error on, fails when no candidate meets the query, and otherwise ends with the
first candidate with the smallest name that does, in its own namespace or else in the one that was
asked for. -/
theorem select_lists_once (source : Source σ) (kind : Kind) (ns : String) (query : LabelQuery)
    (now : Nat) (s : σ) (journal : Journal) :
    let answered := source.list now kind ns query.selector? s
    let selected := select source kind ns query now s
    ((∃ clause ∈ query.required, clause.2 = []) →
      selected = (.now (.error (.notFound kind.name ns query.render)), s) ∧
        select source.journaled kind ns query now (s, journal) =
          (selected.1, selected.2, journal)) ∧
      ((∀ clause ∈ query.required, clause.2 ≠ []) →
        Concludes kind ns query answered.1 selected.1 ∧ selected.2 = answered.2 ∧
          select source.journaled kind ns query now (s, journal) =
            (selected.1, selected.2,
              journal ++ [(now, .listed kind ns query.selector? answered.1)])) ∧
      query.selector? = if query.required = [] then none else some query.render := by
  intro answered selected
  refine ⟨fun refused => ?_, fun nonempty => ?_, query.selector?_eq⟩
  · have unsatisfiable := LabelQuery.isUnsatisfiable_iff.2 refused
    refine ⟨select_of_unsatisfiable source kind ns unsatisfiable now s, ?_⟩
    rw [select_journaled, if_pos unsatisfiable]
  · have satisfiable : query.isUnsatisfiable = false := by
      rw [← Bool.not_eq_true, LabelQuery.isUnsatisfiable_iff]
      rintro ⟨clause, mem, empty⟩
      exact nonempty clause mem empty
    rcases select_of_satisfiable source kind ns satisfiable now s with ⟨concludes, hnext⟩
    refine ⟨concludes, hnext, ?_⟩
    rw [select_journaled, if_neg (by rw [satisfiable]; exact Bool.false_ne_true)]

/-- A server that ignores selectors. -/
def unfilteredSource : ScriptedSource := ⟨[], [.answer 10 threePods]⟩

/-- No role is accepted. -/
def rolelessQuery : LabelQuery := LabelQuery.empty.require "role" []

theorem unfilteredSource_is_asked_once :
    (∀ clause ∈ frontendQuery.required, clause.2 ≠ []) ∧
      (select ScriptedSource.source.journaled .pod "e2e" frontendQuery 0 (unfilteredSource, [])).2.2 =
        [(0, .listed .pod "e2e" (some frontendQuery.render) (.after 10 (.ok threePods) []))] ∧
      (∃ events, (select ScriptedSource.source.journaled .pod "e2e" frontendQuery 0
        (unfilteredSource, [])).1 =
          .after 10 (.ok ⟨.pod, "e2e", "web-0", [("role", "frontend")]⟩) events) ∧
      (∃ clause ∈ rolelessQuery.required, clause.2 = []) ∧
      (select ScriptedSource.source.journaled .pod "e2e" rolelessQuery 0 (unfilteredSource, [])).2.2 =
        [] := by
  have nonempty : ∀ clause ∈ frontendQuery.required, clause.2 ≠ [] := by decide
  have refused : ∃ clause ∈ rolelessQuery.required, clause.2 = [] := by decide
  rcases select_lists_once ScriptedSource.source .pod "e2e" frontendQuery 0 unfilteredSource [] with
    ⟨-, asks, hselector⟩
  rcases select_lists_once ScriptedSource.source .pod "e2e" rolelessQuery 0 unfilteredSource [] with
    ⟨refuses, -, -⟩
  rcases asks nonempty with ⟨concludes, -, hjournaled⟩
  have hanswer : (ScriptedSource.source.list 0 .pod "e2e" frontendQuery.selector? unfilteredSource).1 =
      .after 10 (.ok threePods) [] := rfl
  rw [hanswer] at concludes hjournaled
  rw [hjournaled, hselector, (refuses refused).2]
  refine ⟨nonempty, rfl, ?_, refused, rfl⟩
  generalize (select ScriptedSource.source .pod "e2e" frontendQuery 0 unfilteredSource).1 = result
    at concludes ⊢
  cases concludes with
  | findsNone unmet => exact absurd frontendQuery_picks.1 (unmet _ frontendQuery_picks.mem)
  | finds found more =>
      -- There is only one first candidate with the smallest name.
      have same := (choose_eq_some_iff.2 found).symm.trans (choose_eq_some_iff.2 frontendQuery_picks)
      cases same
      exact ⟨_, rfl⟩

end Readiness
