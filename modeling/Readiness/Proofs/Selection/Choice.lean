import Readiness.Proofs.Text.ByteOrder
import Readiness.Selection

/-!
# Choice — which candidate a query picks out of a listing

* `LabelQuery.IsMet`: what labels must have to meet a query, and `LabelQuery.Picks`: the first of the
  candidates that meet it with the smallest name;
* `choose_eq_some_iff` and `choose_eq_none_iff`: the choice is this candidate, if any meets the query;
* `Served` is what a server may make of a listing: it lists the candidates in any order, and leaves
  out some that do not meet the query;
* `choice_is_independent_of_listing`: the choice has the same name in what is served, and is the same
  candidate when no two that meet the query share a name.
-/

namespace Readiness

namespace LabelQuery

/-- Every required key is among the labels, with one of the values that it accepts. -/
def IsMet (query : LabelQuery) (labels : Dict String) : Prop :=
  ∀ key accepted, (key, accepted) ∈ query.required →
    ∃ value ∈ accepted, Dict.find? key labels = some value

theorem accepts_iff {query : LabelQuery} {labels : Dict String} :
    query.accepts labels = true ↔ query.IsMet labels := by
  simp only [accepts, List.all_eq_true, Prod.forall, IsMet]
  refine forall_congr' fun key => forall_congr' fun accepted => imp_congr_right fun _ => ?_
  cases Dict.find? key labels with
  | none => simp
  | some value => simp

/-- The snapshot is the first one with the smallest name among the candidates that meet the query. -/
def Picks (query : LabelQuery) (candidates : List Snapshot) (snapshot : Snapshot) : Prop :=
  query.IsMet snapshot.labels ∧ ∃ front back, candidates = front ++ snapshot :: back ∧
    (∀ other ∈ front, query.IsMet other.labels → snapshot.name < other.name) ∧
    ∀ other ∈ back, query.IsMet other.labels → snapshot.name ≤ other.name

theorem Picks.mem {query : LabelQuery} {candidates : List Snapshot} {snapshot : Snapshot}
    (h : query.Picks candidates snapshot) : snapshot ∈ candidates := by
  rcases h with ⟨-, front, back, rfl, -⟩
  simp

theorem Picks.name_le {query : LabelQuery} {candidates : List Snapshot} {snapshot other : Snapshot}
    (h : query.Picks candidates snapshot) (mem : other ∈ candidates)
    (met : query.IsMet other.labels) : snapshot.name ≤ other.name := by
  rcases h with ⟨-, front, back, rfl, before, behind⟩
  rcases List.mem_append.1 mem with hfront | hrest
  · exact le_of_lt (before other hfront met)
  · rcases List.mem_cons.1 hrest with rfl | hback
    · exact le_rfl
    · exact behind other hback met

end LabelQuery

open LabelQuery

/-! ## The chosen candidate -/

theorem smallestName_eq_none_iff {snapshots : List Snapshot} :
    smallestName snapshots = none ↔ snapshots = [] := by
  cases snapshots with
  | nil => simp [smallestName]
  | cons first rest =>
      simp only [smallestName, reduceCtorEq, iff_false]
      split
      · simp
      · split <;> simp

theorem exists_split_of_smallestName {snapshots : List Snapshot} {snapshot : Snapshot}
    (h : smallestName snapshots = some snapshot) :
    ∃ front back, snapshots = front ++ snapshot :: back ∧
      (∀ other ∈ front, snapshot.name < other.name) ∧
      ∀ other ∈ back, snapshot.name ≤ other.name := by
  induction snapshots generalizing snapshot with
  | nil => cases h
  | cons first rest ih =>
      rw [smallestName] at h
      cases hrest : smallestName rest with
      | none =>
          rw [hrest] at h
          cases h
          rw [smallestName_eq_none_iff.1 hrest]
          exact ⟨[], [], rfl, by simp, by simp⟩
      | some other =>
          rcases ih hrest with ⟨front, back, hsplit, before, behind⟩
          simp only [hrest] at h
          split at h
          · -- The first one has a greater name.
            next smaller =>
              cases h
              exact ⟨first :: front, back, congrArg (first :: ·) hsplit,
                List.forall_mem_cons.2 ⟨smaller, before⟩, behind⟩
          · -- The first one has a name no greater than the smallest of the rest.
            next notSmaller =>
              cases h
              have hle : first.name ≤ other.name := not_lt.1 notSmaller
              refine ⟨[], rest, rfl, by simp, fun third hmem => ?_⟩
              rw [hsplit] at hmem
              rcases List.mem_append.1 hmem with hfront | hback
              · exact hle.trans (before third hfront).le
              · rcases List.mem_cons.1 hback with rfl | hback
                · exact hle
                · exact hle.trans (behind third hback)

theorem smallestName_append_cons {front back : List Snapshot} {snapshot : Snapshot}
    (before : ∀ other ∈ front, snapshot.name < other.name)
    (behind : ∀ other ∈ back, snapshot.name ≤ other.name) :
    smallestName (front ++ snapshot :: back) = some snapshot := by
  induction front with
  | nil =>
      rw [List.nil_append, smallestName]
      cases hback : smallestName back with
      | none => rfl
      | some other =>
          rcases exists_split_of_smallestName hback with ⟨_, _, rfl, -⟩
          have hle := behind other (by simp)
          exact if_neg hle.not_gt
  | cons first front ih =>
      rcases List.forall_mem_cons.1 before with ⟨hfirst, hfront⟩
      rw [List.cons_append, smallestName, ih hfront]
      exact if_pos hfirst

theorem choose_eq_none_iff {query : LabelQuery} {candidates : List Snapshot} :
    choose query candidates = none ↔ ∀ snapshot ∈ candidates, ¬ query.IsMet snapshot.labels := by
  simp only [choose, smallestName_eq_none_iff, List.filter_eq_nil_iff, accepts_iff]

/-- The choice is the first candidate with the smallest name among those that meet the query. -/
theorem choose_eq_some_iff {query : LabelQuery} {candidates : List Snapshot} {snapshot : Snapshot} :
    choose query candidates = some snapshot ↔ query.Picks candidates snapshot := by
  constructor
  · intro h
    rcases exists_split_of_smallestName h with ⟨front, back, hsplit, before, behind⟩
    rcases List.filter_eq_append_iff.1 hsplit with ⟨left, right, rfl, rfl, hright⟩
    rcases List.filter_eq_cons_iff.1 hright with ⟨gap, rest, rfl, skipped, met, rfl⟩
    refine ⟨accepts_iff.1 met, left ++ gap, rest, by simp, fun other hmem hother => ?_,
      fun other hmem hother => ?_⟩
    · rcases List.mem_append.1 hmem with hleft | hgap
      · exact before other (List.mem_filter.2 ⟨hleft, accepts_iff.2 hother⟩)
      · exact absurd (accepts_iff.2 hother) (skipped other hgap)
    · exact behind other (List.mem_filter.2 ⟨hmem, accepts_iff.2 hother⟩)
  · rintro ⟨met, front, back, rfl, before, behind⟩
    have accepted : query.accepts snapshot.labels = true := accepts_iff.2 met
    rw [choose, List.filter_append, List.filter_cons, if_pos accepted]
    refine smallestName_append_cons (fun other hmem => ?_) fun other hmem => ?_
    · rcases List.mem_filter.1 hmem with ⟨hfront, hother⟩
      exact before other hfront (accepts_iff.1 hother)
    · rcases List.mem_filter.1 hmem with ⟨hback, hother⟩
      exact behind other hback (accepts_iff.1 hother)

theorem exists_picks_of_isMet {query : LabelQuery} {candidates : List Snapshot} {snapshot : Snapshot}
    (mem : snapshot ∈ candidates) (met : query.IsMet snapshot.labels) :
    ∃ chosen, query.Picks candidates chosen := by
  cases hchoice : choose query candidates with
  | none => exact absurd met (choose_eq_none_iff.1 hchoice snapshot mem)
  | some chosen => exact ⟨chosen, choose_eq_some_iff.1 hchoice⟩

/-! ## Listings of one server -/

/-- What a server may make of a listing, as far as a query is concerned. -/
inductive Served (query : LabelQuery) : List Snapshot → List Snapshot → Prop
  /-- It lists the candidates in another order. -/
  | reordered {listing served : List Snapshot} (perm : listing.Perm served) :
      Served query listing served
  /-- It leaves out a candidate that does not meet the query. -/
  | leftOut {front back : List Snapshot} {candidate : Snapshot}
      (unmet : ¬ query.IsMet candidate.labels) :
      Served query (front ++ candidate :: back) (front ++ back)
  | trans {listing between served : List Snapshot} (first : Served query listing between)
      (second : Served query between served) : Served query listing served

/-- What a server does changes nothing about which candidates meet the query. -/
theorem Served.mem_iff {query : LabelQuery} {listing served : List Snapshot}
    (h : Served query listing served) {snapshot : Snapshot} (met : query.IsMet snapshot.labels) :
    snapshot ∈ served ↔ snapshot ∈ listing := by
  induction h with
  | reordered perm => exact perm.mem_iff.symm
  | @leftOut front back candidate unmet =>
      have hne : snapshot ≠ candidate := by
        rintro rfl
        exact unmet met
      simp [hne]
  | trans _ _ ih ih' => exact ih'.trans ih

/-- What is chosen from a listing and from what a server makes of it has the same name. -/
theorem Served.choose_cases {query : LabelQuery} {listing served : List Snapshot}
    (h : Served query listing served) :
    (choose query listing = none ∧ choose query served = none) ∨
      ∃ one other, choose query listing = some one ∧ choose query served = some other ∧
        other.name = one.name := by
  cases hlisting : choose query listing with
  | none =>
      refine .inl ⟨rfl, choose_eq_none_iff.2 fun snapshot mem met => ?_⟩
      exact choose_eq_none_iff.1 hlisting snapshot ((h.mem_iff met).1 mem) met
  | some one =>
      have hone := choose_eq_some_iff.1 hlisting
      rcases exists_picks_of_isMet ((h.mem_iff hone.1).2 hone.mem) hone.1 with ⟨other, hother⟩
      -- Each is a candidate for the other choice, so neither name is smaller.
      have hle : one.name ≤ other.name := hone.name_le ((h.mem_iff hother.1).1 hother.mem) hother.1
      have hge : other.name ≤ one.name := hother.name_le ((h.mem_iff hone.1).2 hone.mem) hone.1
      exact .inr ⟨one, other, rfl, choose_eq_some_iff.2 hother, le_antisymm hge hle⟩

/-- The choice does not depend on the order of a listing, nor on whether the candidates that do not
meet the query are in it: its name is the same, and it is the same candidate when no two different
ones that meet the query share a name. There is a choice exactly when some candidate meets the query.
It meets the query, and no candidate that does has a name with smaller bytes. -/
theorem choice_is_independent_of_listing (query : LabelQuery) {listing served : List Snapshot}
    (h : Served query listing served) :
    (choose query served).map (·.name) = (choose query listing).map (·.name) ∧
      ((∀ one ∈ listing, ∀ other ∈ listing, query.IsMet one.labels → query.IsMet other.labels →
        one.name = other.name → one = other) → choose query served = choose query listing) ∧
      ((choose query listing).isSome = true ↔
        ∃ candidate ∈ listing, query.IsMet candidate.labels) ∧
      ∀ chosen, choose query listing = some chosen →
        chosen ∈ listing ∧ query.IsMet chosen.labels ∧
          ∀ other ∈ listing, query.IsMet other.labels →
            Text.bytes chosen.name ≤ Text.bytes other.name := by
  refine ⟨?_, ?_, ?_, ?_⟩
  · rcases h.choose_cases with ⟨hlisting, hserved⟩ | ⟨one, other, hlisting, hserved, hname⟩
    · rw [hlisting, hserved]
    · rw [hlisting, hserved, Option.map_some, Option.map_some, hname]
  · intro distinct
    rcases h.choose_cases with ⟨hlisting, hserved⟩ | ⟨one, other, hlisting, hserved, hname⟩
    · rw [hlisting, hserved]
    · have hone := choose_eq_some_iff.1 hlisting
      have hother := choose_eq_some_iff.1 hserved
      rw [hlisting, hserved, distinct one hone.mem other ((h.mem_iff hother.1).1 hother.mem) hone.1
        hother.1 hname.symm]
  · constructor
    · intro hsome
      rcases Option.isSome_iff_exists.1 hsome with ⟨chosen, hchosen⟩
      have picks := choose_eq_some_iff.1 hchosen
      exact ⟨chosen, picks.mem, picks.1⟩
    · rintro ⟨candidate, mem, met⟩
      rcases exists_picks_of_isMet mem met with ⟨chosen, picks⟩
      rw [choose_eq_some_iff.2 picks]
      rfl
  · intro chosen hchosen
    have picks := choose_eq_some_iff.1 hchosen
    exact ⟨picks.mem, picks.1, fun other mem met => Text.le_iff_bytes_le.1 (picks.name_le mem met)⟩

def podWithRole (name role : String) : Snapshot := ⟨.pod, some "e2e", name, [("role", role)], .null⟩

def frontendQuery : LabelQuery := LabelQuery.empty.requireEq "role" "frontend"

def threePods : List Snapshot :=
  [podWithRole "web-1" "frontend", podWithRole "db-0" "history", podWithRole "web-0" "frontend"]

/-- A server that knows the query lists only the pods that meet it, and in its own order. -/
def servedPods : List Snapshot := [podWithRole "web-0" "frontend", podWithRole "web-1" "frontend"]

theorem not_isMet_history : ¬ frontendQuery.IsMet (podWithRole "db-0" "history").labels := by
  rw [← LabelQuery.accepts_iff]
  decide

theorem frontendQuery_picks : frontendQuery.Picks threePods (podWithRole "web-0" "frontend") := by
  refine ⟨?_, [podWithRole "web-1" "frontend", podWithRole "db-0" "history"], [], rfl, ?_, nofun⟩
  · rw [← LabelQuery.accepts_iff]
    decide
  · intro other mem met
    simp only [List.mem_cons, List.not_mem_nil, or_false] at mem
    rcases mem with rfl | rfl
    · decide
    · exact absurd met not_isMet_history

theorem threePods_offer_one_choice :
    Served frontendQuery threePods servedPods ∧
      (∀ one ∈ threePods, ∀ other ∈ threePods, frontendQuery.IsMet one.labels →
        frontendQuery.IsMet other.labels → one.name = other.name → one = other) ∧
      choose frontendQuery threePods = some (podWithRole "web-0" "frontend") ∧
      choose frontendQuery servedPods = some (podWithRole "web-0" "frontend") := by
  have served : Served frontendQuery threePods servedPods := by
    have perm : threePods.Perm
        [podWithRole "web-0" "frontend", podWithRole "db-0" "history",
          podWithRole "web-1" "frontend"] := (List.reverse_perm threePods).symm
    have leftOut : Served frontendQuery
        ([podWithRole "web-0" "frontend"] ++ podWithRole "db-0" "history" ::
          [podWithRole "web-1" "frontend"])
        ([podWithRole "web-0" "frontend"] ++ [podWithRole "web-1" "frontend"]) :=
      .leftOut not_isMet_history
    exact .trans (.reordered perm) leftOut
  have distinct : ∀ one ∈ threePods, ∀ other ∈ threePods, frontendQuery.IsMet one.labels →
      frontendQuery.IsMet other.labels → one.name = other.name → one = other := by
    simp [threePods, podWithRole]
  have chosen := choose_eq_some_iff.2 frontendQuery_picks
  rcases choice_is_independent_of_listing frontendQuery served with ⟨-, same, -⟩
  exact ⟨served, distinct, chosen, (same distinct).trans chosen⟩

end Readiness
