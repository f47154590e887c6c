import Mathlib.Data.List.Induction
import Readiness.Proofs.Dict.Lookup
import Readiness.Proofs.Selection.Exits

/-!
# Demands — a query is the union of what was demanded of it

* `LabelQuery.Demand` is a call on the builder of a query, and `LabelQuery.built` is the query after
  any sequence of them;
* `LabelQuery.Unites`: what a query requires is what the demands ask for together. `Unites.after`
  adds one demand, and `unites_built` follows for all;
* `built_eq_iff`: two sequences of demands build the same query exactly when they mention the same
  keys and allow the same values for each;
* `query_is_union_of_demands`: reordering, repeating, splitting and merging demands changes nothing,
  and the labels that are accepted have an allowed value for every key that is mentioned;
* `unsatisfiable_iff_none_accepted`: a query is unsatisfiable exactly when it accepts no labels.
-/

namespace Readiness

/-! ## Sets of values -/

namespace TextSet

variable {text other : String} {texts : List String} {set : TextSet}

/-- A set as a dictionary, of which it is the keys. -/
def entries (set : TextSet) : Dict Unit := set.map fun text => (text, ())

theorem keys_entries (set : TextSet) : Dict.keys (entries set) = set := by
  simp [Dict.keys, entries, Function.comp_def]

theorem entries_insert (text : String) (set : TextSet) :
    entries (insert text set) = Dict.insert text () (entries set) := by
  induction set with
  | nil => rfl
  | cons first rest ih =>
      by_cases same : first = text
      · simp [entries, insert, Dict.insert, same]
      · by_cases smaller : text < first
        · simp [entries, insert, Dict.insert, same, smaller]
        · simpa [entries, insert, Dict.insert, same, smaller] using ih

theorem ascending_entries_iff : Dict.Ascending (entries set) ↔ Ascending set := by
  unfold Dict.Ascending Ascending
  simp only [keys_entries]

theorem mem_insert : other ∈ insert text set ↔ other = text ∨ other ∈ set :=
  calc
    other ∈ insert text set
        ↔ other ∈ Dict.keys (entries (insert text set)) := by simp only [keys_entries]
    _ ↔ other ∈ Dict.keys (Dict.insert text () (entries set)) := by simp only [entries_insert]
    _ ↔ other = text ∨ other ∈ Dict.keys (entries set) := Dict.mem_keys_insert_iff
    _ ↔ other = text ∨ other ∈ set := by simp only [keys_entries]

theorem Ascending.insert (h : Ascending set) (text : String) : Ascending (insert text set) := by
  have inserted : Dict.Ascending (Dict.insert text () (entries set)) :=
    Dict.ascending_insert text () (ascending_entries_iff.2 h)
  exact ascending_entries_iff.1 (entries_insert text set ▸ inserted)

theorem mem_insertAll : other ∈ insertAll texts set ↔ other ∈ texts ∨ other ∈ set := by
  induction texts generalizing set with
  | nil => simp [insertAll]
  | cons text texts ih =>
      calc
        other ∈ insertAll (text :: texts) set
            ↔ other ∈ texts ∨ other ∈ insert text set := ih
        _ ↔ other ∈ texts ∨ other = text ∨ other ∈ set := or_congr_right mem_insert
        _ ↔ other ∈ text :: texts ∨ other ∈ set := by simp [or_left_comm, or_assoc]

theorem Ascending.insertAll (h : Ascending set) (texts : List String) :
    Ascending (insertAll texts set) := by
  induction texts generalizing set with
  | nil => exact h
  | cons text texts ih => exact ih (h.insert text)

end TextSet

namespace LabelQuery

/-! ## Calls of the builder -/

/-- A call on the builder of a query. -/
inductive Demand
  | require (key : String) (values : List String)
  | requireEq (key value : String)

namespace Demand

def key : Demand → String
  | require key _ => key
  | requireEq key _ => key

/-- The values that a demand allows for its key. -/
def values : Demand → List String
  | require _ values => values
  | requireEq _ value => [value]

end Demand

def after (query : LabelQuery) : Demand → LabelQuery
  | .require key values => query.require key values
  | .requireEq key value => query.requireEq key value

/-- The query that demands build one after the other. -/
def built (demands : List Demand) : LabelQuery := demands.foldl after empty

/-- Some demand is about the key. -/
def Mentions (demands : List Demand) (key : String) : Prop := ∃ demand ∈ demands, demand.key = key

/-- Some demand about the key allows the value. -/
def Allows (demands : List Demand) (key value : String) : Prop :=
  ∃ demand ∈ demands, demand.key = key ∧ value ∈ demand.values

/-- The values that are accepted for a key, if it is required. -/
def accepted (query : LabelQuery) (key : String) : TextSet :=
  (Dict.find? key query.required).getD []

variable {query other : LabelQuery} {demands others : List Demand} {demand : Demand}
  {key value : String} {labels : Dict String}

theorem after_eq (query : LabelQuery) (demand : Demand) :
    query.after demand = query.require demand.key demand.values := by
  cases demand <;> rfl

theorem accepted_after_self :
    (query.after demand).accepted demand.key =
      TextSet.insertAll demand.values (query.accepted demand.key) := by
  simp [after_eq, require, accepted, Dict.find?_insert_self]

theorem accepted_after_of_ne (hne : key ≠ demand.key) :
    (query.after demand).accepted key = query.accepted key := by
  simp [after_eq, require, accepted, Dict.find?_insert_of_ne hne]

theorem mem_keys_after :
    key ∈ Dict.keys (query.after demand).required ↔
      key = demand.key ∨ key ∈ Dict.keys query.required := by
  simp [after_eq, require, Dict.mem_keys_insert_iff]

theorem mentions_concat :
    Mentions (demands ++ [demand]) key ↔ key = demand.key ∨ Mentions demands key := by
  simp [Mentions, or_and_right, exists_or, or_comm, eq_comm]

theorem allows_concat :
    Allows (demands ++ [demand]) key value ↔
      (key = demand.key ∧ value ∈ demand.values) ∨ Allows demands key value := by
  simp [Allows, or_and_right, exists_or, or_comm, eq_comm]

/-! ## What a query requires -/

/-- The query requires what the demands ask for together, keys and values in ascending order. -/
structure Unites (query : LabelQuery) (demands : List Demand) : Prop where
  ascending : Dict.Ascending query.required
  sorted : ∀ key, TextSet.Ascending (query.accepted key)
  mentions : ∀ key, key ∈ Dict.keys query.required ↔ Mentions demands key
  allows : ∀ key value, value ∈ query.accepted key ↔ Allows demands key value

namespace Unites

theorem empty : Unites empty [] where
  ascending := List.Pairwise.nil
  sorted _ := List.Pairwise.nil
  mentions key := by simp [LabelQuery.empty, Dict.keys, Mentions]
  allows key value := by simp [LabelQuery.empty, accepted, Allows]

/-- One more demand adds its key and its values. -/
theorem after (h : Unites query demands) (demand : Demand) :
    Unites (query.after demand) (demands ++ [demand]) where
  ascending := by
    simpa [after_eq, require] using Dict.ascending_insert _ _ h.ascending
  sorted key := by
    by_cases same : key = demand.key
    · cases same
      simpa [accepted_after_self] using (h.sorted demand.key).insertAll demand.values
    · simpa [accepted_after_of_ne same] using h.sorted key
  mentions key := by
    calc
      key ∈ Dict.keys (query.after demand).required
          ↔ key = demand.key ∨ key ∈ Dict.keys query.required := mem_keys_after
      _ ↔ key = demand.key ∨ Mentions demands key := or_congr_right (h.mentions key)
      _ ↔ Mentions (demands ++ [demand]) key := mentions_concat.symm
  allows key value := by
    by_cases same : key = demand.key
    · cases same
      simp [accepted_after_self, TextSet.mem_insertAll, allows_concat, h.allows]
    · simp [accepted_after_of_ne same, allows_concat, same, h.allows]

theorem find?_of_mentions (h : Unites query demands) (mentioned : Mentions demands key) :
    Dict.find? key query.required = some (query.accepted key) := by
  rcases Dict.mem_keys_iff.1 ((h.mentions key).2 mentioned) with ⟨values, found⟩
  simp [accepted, found]

theorem find?_of_not_mentions (h : Unites query demands) (missing : ¬ Mentions demands key) :
    Dict.find? key query.required = none :=
  Dict.find?_eq_none_iff.2 (mt (h.mentions key).1 missing)

/-- The clauses are the mentioned keys, each with the values that are accepted for it. -/
theorem mem_required_iff (h : Unites query demands) {values : TextSet} :
    (key, values) ∈ query.required ↔ Mentions demands key ∧ query.accepted key = values := by
  constructor
  · intro mem
    have found := h.ascending.mem_iff.1 mem
    have mentioned := (h.mentions key).1 (Dict.mem_keys_iff.2 ⟨values, found⟩)
    exact ⟨mentioned, by simp [accepted, found]⟩
  · rintro ⟨mentioned, rfl⟩
    exact h.ascending.mem_iff.2 (h.find?_of_mentions mentioned)

/-- A query is determined by the keys that are mentioned and the values that are allowed. -/
theorem eq_of_same (h : Unites query demands) (hother : Unites other others)
    (keys : ∀ key, Mentions demands key ↔ Mentions others key)
    (values : ∀ key value, Allows demands key value ↔ Allows others key value) : query = other := by
  have accepted_eq : ∀ key, query.accepted key = other.accepted key := by
    intro key
    apply (h.sorted key).eq_of_mem_iff (hother.sorted key)
    intro value
    calc
      value ∈ query.accepted key
          ↔ Allows demands key value := h.allows key value
      _ ↔ Allows others key value := values key value
      _ ↔ value ∈ other.accepted key := (hother.allows key value).symm
  -- A key may be required without any value, so the lookups are compared and not only the values.
  have required_eq : query.required = other.required := by
    apply h.ascending.eq_of_find? hother.ascending
    intro key
    by_cases mentioned : Mentions demands key
    · simp [h.find?_of_mentions mentioned, hother.find?_of_mentions ((keys key).1 mentioned),
        accepted_eq key]
    · have missing := h.find?_of_not_mentions mentioned
      have missing' := hother.find?_of_not_mentions (mt (keys key).2 mentioned)
      exact missing.trans missing'.symm
  exact congrArg LabelQuery.mk required_eq

/-- Labels meet a query when they have an allowed value for every key that is mentioned. -/
theorem isMet_iff (h : Unites query demands) :
    query.IsMet labels ↔
      ∀ key, Mentions demands key → ∃ value, Dict.find? key labels = some value ∧
        Allows demands key value := by
  constructor
  · intro met key mentioned
    rcases met key _ (h.mem_required_iff.2 ⟨mentioned, rfl⟩) with ⟨value, mem, found⟩
    exact ⟨value, found, (h.allows key value).1 mem⟩
  · intro allowed key values mem
    rcases h.mem_required_iff.1 mem with ⟨mentioned, rfl⟩
    rcases allowed key mentioned with ⟨value, found, hvalue⟩
    exact ⟨value, (h.allows key value).2 hvalue, found⟩

theorem isUnsatisfiable_iff (h : Unites query demands) :
    query.isUnsatisfiable = true ↔
      ∃ key, Mentions demands key ∧ ∀ value, ¬ Allows demands key value := by
  have empty_iff : ∀ key, query.accepted key = [] ↔ ∀ value, ¬ Allows demands key value := by
    intro key
    simp [List.eq_nil_iff_forall_not_mem, h.allows]
  calc
    query.isUnsatisfiable = true
        ↔ ∃ clause ∈ query.required, clause.2 = [] := LabelQuery.isUnsatisfiable_iff
    _ ↔ ∃ key, Mentions demands key ∧ query.accepted key = [] := by
          simp [Prod.exists, h.mem_required_iff]
    _ ↔ ∃ key, Mentions demands key ∧ ∀ value, ¬ Allows demands key value := by
          simp [empty_iff]

end Unites

theorem unites_built (demands : List Demand) : Unites (built demands) demands := by
  -- The builder folds from the left, so the induction takes off the last demand.
  induction demands using List.reverseRecOn with
  | nil => exact .empty
  | append_singleton demands demand ih => simpa [built] using ih.after demand

/-- Demands build one query exactly when they mention the same keys and allow the same values. -/
theorem built_eq_iff :
    built demands = built others ↔
      (∀ key, Mentions demands key ↔ Mentions others key) ∧
        ∀ key value, Allows demands key value ↔ Allows others key value := by
  have h := unites_built demands
  have hother := unites_built others
  constructor
  · intro same
    exact ⟨fun key => (h.mentions key).symm.trans (same ▸ hother.mentions key),
      fun key value => (h.allows key value).symm.trans (same ▸ hother.allows key value)⟩
  · rintro ⟨keys, values⟩
    exact h.eq_of_same hother keys values

/-! ## Demands for the same -/

/-- Sequences of demands that ask for the same. -/
inductive Rearranged : List Demand → List Demand → Prop
  | reordered {demands others : List Demand} (perm : demands.Perm others) :
      Rearranged demands others
  | repeated {demands : List Demand} {demand : Demand} (mem : demand ∈ demands) :
      Rearranged demands (demand :: demands)
  /-- The values of a demand are allowed in two demands for its key. -/
  | split {demands : List Demand} {demand left right : Demand} (leftKey : left.key = demand.key)
      (rightKey : right.key = demand.key)
      (parts : ∀ value, value ∈ demand.values ↔ value ∈ left.values ∨ value ∈ right.values) :
      Rearranged (demand :: demands) (left :: right :: demands)
  | symm {demands others : List Demand} (h : Rearranged demands others) : Rearranged others demands
  | trans {demands between others : List Demand} (first : Rearranged demands between)
      (second : Rearranged between others) : Rearranged demands others

theorem Rearranged.built_eq (h : Rearranged demands others) : built demands = built others := by
  induction h with
  | reordered perm => exact built_eq_iff.2 (by simp [Mentions, Allows, perm.mem_iff])
  | @repeated demands demand mem =>
      have same : ∀ other, other ∈ demand :: demands ↔ other ∈ demands := by
        intro other
        exact ⟨fun h => (List.mem_cons.1 h).elim (· ▸ mem) id, List.mem_cons_of_mem demand⟩
      exact built_eq_iff.2 (by simp only [Mentions, Allows, same, implies_true, and_self])
  | @split demands demand left right leftKey rightKey parts =>
      refine built_eq_iff.2 ⟨?_, ?_⟩
      · intro key
        simp [Mentions, leftKey, rightKey]
      · intro key value
        simp [Allows, leftKey, rightKey, parts, and_or_left, or_assoc]
  | symm _ ih => exact ih.symm
  | trans _ _ ih ih' => exact ih.trans ih'

/-- A query is the union of its demands. Demands that mention the same keys and allow the same
values build the same query: their order, repetitions and values split over several of them make no
difference, not even to the text. Labels are accepted exactly when they have, for every key that
some demand mentions, a value that some demand allows for it; a key that is mentioned without any
value accepts none. -/
theorem query_is_union_of_demands (demands : List Demand) :
    (∀ others, Rearranged demands others →
      built demands = built others ∧ (built demands).render = (built others).render ∧
        (built demands).selector? = (built others).selector?) ∧
      (∀ others, built demands = built others ↔
        (∀ key, Mentions demands key ↔ Mentions others key) ∧
          ∀ key value, Allows demands key value ↔ Allows others key value) ∧
      (∀ labels, (built demands).accepts labels = true ↔
        ∀ key, Mentions demands key → ∃ value, Dict.find? key labels = some value ∧
          Allows demands key value) ∧
      ∀ key, Mentions demands key → (∀ value, ¬ Allows demands key value) →
        ∀ labels, (built demands).accepts labels = false := by
  have accepts_iff_allowed : ∀ labels, (built demands).accepts labels = true ↔
      ∀ key, Mentions demands key → ∃ value, Dict.find? key labels = some value ∧
        Allows demands key value := by
    intro labels
    exact accepts_iff.trans (unites_built demands).isMet_iff
  refine ⟨?_, fun others => built_eq_iff, accepts_iff_allowed, ?_⟩
  · intro others rearranged
    have same := rearranged.built_eq
    exact ⟨same, congrArg render same, congrArg selector? same⟩
  · intro key mentioned forbidden labels
    by_contra accepted
    rw [Bool.not_eq_false, accepts_iff_allowed] at accepted
    rcases accepted key mentioned with ⟨value, -, allowed⟩
    exact forbidden value allowed

def webDemands : List Demand := [.require "role" ["history", "frontend"], .requireEq "app" "web"]

/-- The same demands, one value at a time and one of them twice. -/
def scatteredDemands : List Demand :=
  [.requireEq "app" "web", .requireEq "role" "frontend", .requireEq "app" "web",
    .requireEq "role" "history"]

theorem webDemands_build_scattered_query :
    Rearranged webDemands scatteredDemands ∧ built webDemands = built scatteredDemands ∧
      (built scatteredDemands).render = "app in (web),role in (frontend,history)" ∧
      (built webDemands).accepts [("app", "web"), ("role", "history")] = true ∧
      (built [.require "role" []]).accepts [("role", "history")] = false := by
  have rearranged : Rearranged webDemands scatteredDemands := by
    have split : Rearranged webDemands
        [.requireEq "role" "history", .requireEq "role" "frontend", .requireEq "app" "web"] :=
      .split rfl rfl (by simp [Demand.values])
    have repeated : Rearranged
        [.requireEq "role" "history", .requireEq "role" "frontend", .requireEq "app" "web"]
        [.requireEq "app" "web", .requireEq "role" "history", .requireEq "role" "frontend",
          .requireEq "app" "web"] :=
      .repeated (by simp)
    have perm : List.Perm
        [Demand.requireEq "app" "web", .requireEq "role" "history", .requireEq "role" "frontend",
          .requireEq "app" "web"] scatteredDemands :=
      .cons _ (.trans (.swap _ _ _) (.cons _ (.swap _ _ _)))
    exact .trans split (.trans repeated (.reordered perm))
  rcases query_is_union_of_demands webDemands with ⟨unchanged, -, accepts_iff_allowed, -⟩
  rcases query_is_union_of_demands [.require "role" []] with ⟨-, -, -, refuses⟩
  refine ⟨rearranged, (unchanged _ rearranged).1, by decide, ?_, ?_⟩
  · apply (accepts_iff_allowed _).2
    intro key mentioned
    have known : "role" = key ∨ "app" = key := by
      simpa [webDemands, Mentions, Demand.key] using mentioned
    rcases known with rfl | rfl
    · exact ⟨"history", rfl, .require "role" ["history", "frontend"], by simp [webDemands], rfl,
        by simp [Demand.values]⟩
    · exact ⟨"web", rfl, .requireEq "app" "web", by simp [webDemands], rfl, by simp [Demand.values]⟩
  · exact refuses "role" (by simp [Mentions, Demand.key]) (by simp [Allows, Demand.values]) _

/-! ## Queries that accept nothing -/

/-- Labels that carry, for every required key, the first value that is accepted for it. -/
def sampleLabels (query : LabelQuery) : Dict String :=
  Dict.mapped (fun values => values.headD "") query.required

/-- The sample meets the query, unless a key is mentioned without any value. -/
theorem Unites.isMet_sampleLabels (h : Unites query demands)
    (allowed : ∀ key, Mentions demands key → ∃ value, Allows demands key value) :
    query.IsMet query.sampleLabels := by
  rw [h.isMet_iff]
  intro key mentioned
  rcases allowed key mentioned with ⟨value, hvalue⟩
  have nonempty : query.accepted key ≠ [] := List.ne_nil_of_mem ((h.allows key value).2 hvalue)
  rcases List.exists_cons_of_ne_nil nonempty with ⟨first, rest, hfirst⟩
  refine ⟨first, ?_, ?_⟩
  · simp [sampleLabels, Dict.find?_mapped, h.find?_of_mentions mentioned, hfirst]
  · exact (h.allows key first).1 (by simp [hfirst])

/-- A query is unsatisfiable exactly when it accepts no labels at all: one that is not accepts some
labels, and one that is cannot choose any candidate. -/
theorem unsatisfiable_iff_none_accepted (demands : List Demand) :
    ((built demands).isUnsatisfiable = true ↔
        ∀ labels : Dict String, Dict.Ascending labels → (built demands).accepts labels = false) ∧
      ((built demands).isUnsatisfiable = false →
        ∃ labels : Dict String, Dict.Ascending labels ∧ (built demands).accepts labels = true) ∧
      ((built demands).isUnsatisfiable = true →
        ∀ candidates, choose (built demands) candidates = none) := by
  have h := unites_built demands
  have refuses : (built demands).isUnsatisfiable = true →
      ∀ labels, ¬ (built demands).IsMet labels := by
    intro unsatisfiable labels met
    rcases h.isUnsatisfiable_iff.1 unsatisfiable with ⟨key, mentioned, forbidden⟩
    rcases h.isMet_iff.1 met key mentioned with ⟨value, -, allowed⟩
    exact forbidden value allowed
  have accepts_sample : (built demands).isUnsatisfiable = false →
      (built demands).accepts (built demands).sampleLabels = true := by
    intro satisfiable
    apply accepts_iff.2
    apply h.isMet_sampleLabels
    intro key mentioned
    by_contra forbidden
    have unsatisfiable := h.isUnsatisfiable_iff.2 ⟨key, mentioned, not_exists.1 forbidden⟩
    exact Bool.false_ne_true (satisfiable.symm.trans unsatisfiable)
  have ascending : Dict.Ascending (built demands).sampleLabels := h.ascending.mapped _
  refine ⟨⟨?_, ?_⟩, ?_, ?_⟩
  · intro unsatisfiable labels _
    exact Bool.eq_false_iff.2 fun accepted => refuses unsatisfiable labels (accepts_iff.1 accepted)
  · intro none
    by_contra satisfiable
    have accepted := accepts_sample (Bool.eq_false_iff.2 satisfiable)
    exact Bool.false_ne_true ((none _ ascending).symm.trans accepted)
  · intro satisfiable
    exact ⟨_, ascending, accepts_sample satisfiable⟩
  · intro unsatisfiable candidates
    exact choose_eq_none_iff.2 fun candidate _ => refuses unsatisfiable candidate.labels

theorem webDemands_are_satisfiable :
    (∃ labels : Dict String, Dict.Ascending labels ∧ (built webDemands).accepts labels = true) ∧
      ∀ candidates,
        choose (built [.requireEq "app" "web", .require "role" []]) candidates = none := by
  rcases unsatisfiable_iff_none_accepted webDemands with ⟨-, accepted, -⟩
  rcases unsatisfiable_iff_none_accepted [.requireEq "app" "web", .require "role" []] with
    ⟨-, -, refused⟩
  exact ⟨accepted (by decide), refused (by decide)⟩

end LabelQuery

end Readiness
