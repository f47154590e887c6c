import Readiness.Proofs.Selection.Reading

/-!
# Empty lists — clauses without values in the texts that a source is asked with

* `LabelQuery.LeavesBlank`: the demands mention a key and allow no value for it but the empty one;
* `SelectorText.HasEmptyList`: a text reads as clauses of which one has no values;
* `empty_lists_are_of_blank_keys`: a source is asked unless some key has no value, and the text that
  it is asked with has an empty list exactly for the keys that are left blank;
* `blankRole_is_asked_for`: a source is asked with an empty list when no other value than the empty
  one is allowed.
-/

namespace Readiness

open LabelQuery

variable {σ : Type}

namespace SelectorText

/-- The text reads as clauses of which one has no values. -/
def HasEmptyList (text : String) : Prop :=
  ∃ clauses, clauses? text.toList = some clauses ∧ ∃ clause ∈ clauses, clause.2 = []

theorem legibleValues_eq_nil_iff {set : TextSet} :
    legibleValues set = [] ↔ set = [] ∨ set = [""] := by
  by_cases blank : set = [""]
  · simp [legibleValues, blank]
  · simp [legibleValues, blank]

end SelectorText

open SelectorText

/-- In ascending order the empty value stands alone when there is no other. -/
theorem TextSet.Ascending.forall_eq_empty_iff {set : TextSet} (h : TextSet.Ascending set) :
    (∀ value ∈ set, value = "") ↔ set = [] ∨ set = [""] := by
  constructor
  · intro blank
    cases set with
    | nil => exact .inl rfl
    | cons first rest =>
        have hfirst : first = "" := blank first List.mem_cons_self
        cases rest with
        | nil => exact .inr (congrArg ([·]) hfirst)
        | cons next more =>
            have hnext : next = "" := blank next (by simp)
            -- A second empty value would not be greater than the first.
            have smaller : first < next := List.rel_of_pairwise_cons h List.mem_cons_self
            exact absurd (hfirst.trans hnext.symm) smaller.ne
  · rintro (rfl | rfl) <;> simp

namespace LabelQuery

variable {query : LabelQuery} {demands : List Demand} {key : String}

/-- The demands mention the key, and allow no value for it but the empty one, if any. -/
def LeavesBlank (demands : List Demand) (key : String) : Prop :=
  Mentions demands key ∧ ∀ value, Allows demands key value → value = ""

theorem renderClause_eq_iff {set : TextSet} :
    renderClause (key, set) = key ++ " in ()" ↔ set = [] ∨ set = [""] := by
  have written : renderClause (key, set) = key ++ " in ()" ↔ (Text.joined "," set).toList = [] :=
    calc
      renderClause (key, set) = key ++ " in ()"
          ↔ (renderClause (key, set)).toList = (key ++ " in ()").toList := String.toList_inj.symm
      _ ↔ (Text.joined "," set).toList = [] := by simp [toList_renderClause, opening]
  refine written.trans ⟨fun nothing => ?_, ?_⟩
  · cases set with
    | nil => exact .inl rfl
    | cons first rest =>
        cases rest with
        | nil => exact .inr (by simpa [Text.joined] using nothing)
        | cons next more => simp [Text.joined] at nothing
  · rintro (rfl | rfl) <;> rfl

theorem Unites.leavesBlank_iff (h : Unites query demands) {values : TextSet}
    (mem : (key, values) ∈ query.required) :
    LeavesBlank demands key ↔ values = [] ∨ values = [""] := by
  rcases h.mem_required_iff.1 mem with ⟨mentioned, rfl⟩
  calc
    LeavesBlank demands key
        ↔ ∀ value ∈ query.accepted key, value = "" := by simp [LeavesBlank, mentioned, h.allows]
    _ ↔ query.accepted key = [] ∨ query.accepted key = [""] := (h.sorted key).forall_eq_empty_iff

/-- A text without stray punctuation has an empty list exactly when a key is left blank. -/
theorem Unites.hasEmptyList_iff (h : Unites query demands)
    (unmarked : ∀ demand ∈ demands, Unmarked (demand.key, demand.values)) {text : String}
    (selector : query.selector? = some text) :
    HasEmptyList text ↔ ∃ key, LeavesBlank demands key := by
  have unmarked_required : ∀ clause ∈ query.required, Unmarked clause := by
    rintro ⟨key, values⟩ mem
    rcases h.mem_required_iff.1 mem with ⟨⟨demand, hdemand, rfl⟩, rfl⟩
    refine ⟨(unmarked demand hdemand).1, ?_⟩
    intro value hvalue
    rcases (h.allows _ value).1 hvalue with ⟨other, hother, -, allowed⟩
    exact (unmarked other hother).2 value allowed
  have read : clauses? text.toList = some (Dict.mapped legibleValues query.required) := by
    simpa [selector, read?] using SelectorText.read?_selector? unmarked_required
  calc
    HasEmptyList text
        ↔ ∃ key values, (key, values) ∈ query.required ∧ (values = [] ∨ values = [""]) := by
          simp [HasEmptyList, read, Dict.mapped, legibleValues_eq_nil_iff]
    _ ↔ ∃ key values, (key, values) ∈ query.required ∧ LeavesBlank demands key := by
          refine exists_congr fun key => exists_congr fun values => and_congr_right fun mem => ?_
          exact (h.leavesBlank_iff mem).symm
    _ ↔ ∃ key, LeavesBlank demands key := by
          constructor
          · rintro ⟨key, -, -, blank⟩
            exact ⟨key, blank⟩
          · rintro ⟨key, blank⟩
            exact ⟨key, _, h.mem_required_iff.2 ⟨blank.1, rfl⟩, blank⟩

end LabelQuery

/-- A query fails without asking the source when a key is mentioned without any value, and asks it
once otherwise. In the text that it asks with, the list of a key is empty exactly when the key is
left blank, and where keys and values have no punctuation of their own, the text as a whole tells
the same. So the only empty lists that are sent belong to keys for which the empty value is allowed and
no other. -/
theorem empty_lists_are_of_blank_keys (source : Source σ) (kind : Kind) (ns : String)
    (demands : List Demand) (now : Nat) (s : σ) (journal : Journal) :
    let query := built demands
    let answered := source.list now kind ns query.selector? s
    let selected := select source.journaled kind ns query now (s, journal)
    ((∃ key, Mentions demands key ∧ ∀ value, ¬ Allows demands key value) →
        selected = (.now (.error (.notFound kind.name ns query.render)), s, journal)) ∧
      ((∀ key, Mentions demands key → ∃ value, Allows demands key value) →
        selected.2.2 = journal ++ [(now, .listed kind ns query.selector? answered.1)]) ∧
      (∀ text, query.selector? = some text →
        text = Text.joined "," (query.required.map renderClause) ∧
          ((∀ demand ∈ demands, Unmarked (demand.key, demand.values)) →
            (HasEmptyList text ↔ ∃ key, LeavesBlank demands key))) ∧
      ∀ clause ∈ query.required,
        renderClause clause = clause.1 ++ " in ()" ↔ LeavesBlank demands clause.1 := by
  intro query answered selected
  have h : Unites query demands := unites_built demands
  refine ⟨?_, ?_, ?_, ?_⟩
  · intro forbidden
    exact select_of_unsatisfiable source.journaled kind ns (h.isUnsatisfiable_iff.2 forbidden) now
      (s, journal)
  · intro allowed
    have satisfiable : ¬ query.isUnsatisfiable = true := by
      intro unsatisfiable
      rcases h.isUnsatisfiable_iff.1 unsatisfiable with ⟨key, mentioned, forbidden⟩
      rcases allowed key mentioned with ⟨value, hvalue⟩
      exact forbidden value hvalue
    simp [selected, answered, select_journaled, satisfiable]
  · intro text selector
    refine ⟨?_, fun unmarked => h.hasEmptyList_iff unmarked selector⟩
    by_cases none : query.required = []
    · simp [selector?_eq, none] at selector
    · have written : query.render = text := by simpa [selector?_eq, none] using selector
      exact written.symm
  · rintro ⟨key, values⟩ mem
    exact renderClause_eq_iff.trans (h.leavesBlank_iff mem).symm

/-- The empty role is accepted beside another one. -/
def mixedDemands : List Demand := [.require "role" ["frontend", ""], .requireEq "app" "web"]

theorem mixedDemands_have_no_empty_list :
    (select ScriptedSource.source.journaled .pod "e2e" (built mixedDemands) 0
        (unfilteredSource, [])).2.2 =
      [(0, .listed .pod "e2e" (some "app in (web),role in (,frontend)")
        (.after 10 (.ok threePods) []))] ∧
      ¬ HasEmptyList "app in (web),role in (,frontend)" ∧
      (select ScriptedSource.source.journaled .pod "e2e" (built [.require "role" []]) 0
        (unfilteredSource, [])).2.2 = [] := by
  have allowed : ∀ key, Mentions mixedDemands key →
      ∃ value, Allows mixedDemands key value ∧ value ≠ "" := by
    intro key mentioned
    have known : "role" = key ∨ "app" = key := by
      simpa [mixedDemands, Mentions, Demand.key] using mentioned
    rcases known with rfl | rfl
    · exact ⟨"frontend", by simp [mixedDemands, Allows, Demand.key, Demand.values], by decide⟩
    · exact ⟨"web", by simp [mixedDemands, Allows, Demand.key, Demand.values], by decide⟩
  have notBlank : ¬ ∃ key, LeavesBlank mixedDemands key := by
    rintro ⟨key, mentioned, blank⟩
    rcases allowed key mentioned with ⟨value, hvalue, nonempty⟩
    exact nonempty (blank value hvalue)
  have selector : (built mixedDemands).selector? = some "app in (web),role in (,frontend)" := by
    decide
  rcases empty_lists_are_of_blank_keys ScriptedSource.source .pod "e2e" mixedDemands 0
    unfilteredSource [] with ⟨-, asks, texts, -⟩
  rcases empty_lists_are_of_blank_keys ScriptedSource.source .pod "e2e" [.require "role" []] 0
    unfilteredSource [] with ⟨refuses, -, -⟩
  refine ⟨?_, ?_, ?_⟩
  · have asked := asks fun key mentioned => (allowed key mentioned).imp fun _ => And.left
    rw [asked, selector]
    rfl
  · have unmarked : ∀ demand ∈ mixedDemands, Unmarked (demand.key, demand.values) := by
      simp [mixedDemands, Unmarked, Demand.key, Demand.values]
    exact mt ((texts _ selector).2 unmarked).1 notBlank
  · have refused := refuses
      ⟨"role", by simp [Mentions, Demand.key], by simp [Allows, Demand.values]⟩
    rw [refused]

/-- The set of the empty value alone is not empty, but its list is. -/
theorem blankRole_is_asked_for :
    (select ScriptedSource.source.journaled .pod "e2e" (built [.requireEq "role" ""]) 0
        (unfilteredSource, [])).2.2 =
      [(0, .listed .pod "e2e" (some "role in ()") (.after 10 (.ok threePods) []))] ∧
      HasEmptyList "role in ()" := by
  refine ⟨?_, [("role", [])], ?_, by simp⟩
  · have satisfiable : (built [.requireEq "role" ""]).isUnsatisfiable = false := by decide
    have selector : (built [.requireEq "role" ""]).selector? = some "role in ()" := by decide
    rw [select_journaled, satisfiable, selector]
    rfl
  · exact clauses?_of_last (by decide)

end Readiness
