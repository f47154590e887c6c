import Readiness.Proofs.Selection.Demands
import Readiness.Proofs.Text.Cutting
import Readiness.Text.Blank

/-!
# Reading — selector texts taken apart again

* `SelectorText.clauses?` reads a text as clauses `key in (value,value)` with commas between them,
  and `SelectorText.read?` reads the selector of a listing, which may be absent;
* `eq_of_clauses?`: a text that it reads is the one that its clauses are written as;
* `clauses?_render`: it reads the clauses of a query, except that a list of the empty value alone
  looks like a list without values;
* `selector_determines_query`: the selector of a query over the label alphabet reads as what the
  query requires, and no other text does.
-/

namespace Readiness

open LabelQuery

namespace SelectorText

/-- The values in a list; there are none when nothing stands between the parentheses. -/
def values (list : List Char) : TextSet :=
  if list.isEmpty then [] else (Text.splitAt ',' list).map String.ofList

/-- What stands between the key and the values of a clause. -/
def opening : List Char := [' ', 'i', 'n', ' ', '(']

/-- Reads the clause at the front of a text, and leaves what follows it. -/
def clause? (cs : List Char) : Option ((String × TextSet) × List Char) :=
  match Text.cut? opening cs with
  | none => none
  | some (key, rest) =>
      match Text.cut? [')'] rest with
      | none => none
      | some (list, rest) => some ((String.ofList key, values list), rest)

variable {cs rest : List Char} {clause : String × TextSet} {clauses : Dict TextSet}
  {query : LabelQuery}

theorem toList_joined_values (list : List Char) :
    (Text.joined "," (values list)).toList = list := by
  cases list with
  | nil => rfl
  | cons c more => exact Text.toList_joined_splitAt ',' (c :: more)

theorem toList_renderClause (clause : String × TextSet) :
    (renderClause clause).toList =
      clause.1.toList ++ opening ++ (Text.joined "," clause.2).toList ++ [')'] := by
  simp [renderClause, opening]

/-- A clause that is read is written as the text in front of what follows it. -/
theorem eq_of_clause? (h : clause? cs = some (clause, rest)) :
    cs = (renderClause clause).toList ++ rest := by
  cases hkey : Text.cut? opening cs with
  | none => simp [clause?, hkey] at h
  | some cut =>
      obtain ⟨key, listed⟩ := cut
      cases hlist : Text.cut? [')'] listed with
      | none => simp [clause?, hkey, hlist] at h
      | some cut =>
          obtain ⟨list, behind⟩ := cut
          have ⟨hclause, hrest⟩ : (String.ofList key, values list) = clause ∧ behind = rest := by
            simpa [clause?, hkey, hlist] using h
          cases hclause
          cases hrest
          calc
            cs = key ++ opening ++ listed := Text.eq_of_cut? hkey
            _ = key ++ opening ++ (list ++ [')'] ++ rest) :=
                  congrArg (key ++ opening ++ ·) (Text.eq_of_cut? hlist)
            _ = (renderClause (String.ofList key, values list)).toList ++ rest := by
                  simp [toList_renderClause, toList_joined_values]

theorem length_lt_of_clause? (h : clause? cs = some (clause, rest)) : rest.length < cs.length := by
  simp [eq_of_clause? h, toList_renderClause]
  omega

/-- Reads clauses up to the end of a text, with a comma between one and the next. -/
def clauses? (cs : List Char) : Option (Dict TextSet) :=
  match read : clause? cs with
  | none => none
  | some (clause, []) => some [clause]
  | some (clause, c :: rest) =>
      have : rest.length < cs.length := Nat.lt_of_succ_lt (length_lt_of_clause? read)
      if c = ',' then (clauses? rest).map (clause :: ·) else none
termination_by cs.length

/-- Reads a selector; the absent one has no clauses. -/
def read? : Option String → Option (Dict TextSet)
  | none => some []
  | some text => clauses? text.toList

/-! ## Only what is written is read -/

/-- A text that is read is the one that its clauses are written as. -/
theorem eq_of_clauses? (h : clauses? cs = some clauses) :
    clauses ≠ [] ∧ cs = (render ⟨clauses⟩).toList := by
  -- The cases of the reader: no clause, a last one, one with a comma behind it, or other text.
  fun_induction clauses? cs generalizing clauses with
  | case1 => cases h
  | case2 cs clause read =>
      cases h
      have written : cs = (renderClause clause).toList := by simpa using eq_of_clause? read
      exact ⟨List.cons_ne_nil _ _, written⟩
  | case3 cs clause rest read shorter ih =>
      rcases Option.map_eq_some_iff.1 h with ⟨later, hlater, rfl⟩
      have ⟨nonempty, hrest⟩ := ih hlater
      rcases List.exists_cons_of_ne_nil nonempty with ⟨next, more, rfl⟩
      refine ⟨List.cons_ne_nil _ _, ?_⟩
      calc
        cs = (renderClause clause).toList ++ ',' :: rest := eq_of_clause? read
        _ = (renderClause clause).toList ++ ',' :: (render ⟨next :: more⟩).toList :=
              congrArg ((renderClause clause).toList ++ ',' :: ·) hrest
        _ = (render ⟨clause :: next :: more⟩).toList := by simp [render, Text.joined]
  | case4 => cases h

/-! ## What is written is read -/

/-- A clause without punctuation of its own: there is no blank in its key, and no comma and no
closing parenthesis in its values. -/
def Unmarked (clause : String × TextSet) : Prop :=
  ' ' ∉ clause.1.toList ∧ ∀ value ∈ clause.2, ',' ∉ value.toList ∧ ')' ∉ value.toList

/-- The values that a list seems to have: the empty value alone leaves no trace. -/
def legibleValues (values : TextSet) : TextSet := if values = [""] then [] else values

theorem values_joined {set : TextSet} (h : ∀ value ∈ set, ',' ∉ value.toList) :
    values (Text.joined "," set).toList = legibleValues set := by
  by_cases nonempty : (Text.joined "," set).toList = []
  · cases set with
    | nil => rfl
    | cons first rest =>
        cases rest with
        | nil =>
            have blank : first = "" := by simpa [Text.joined] using nonempty
            simp [blank, legibleValues, values, Text.joined]
        | cons next more => simp [Text.joined] at nonempty
  · have hset : set ≠ [] ∧ set ≠ [""] := by
      constructor <;> rintro rfl <;> exact nonempty rfl
    have parts : Text.splitAt ',' (Text.joined "," set).toList = set.map String.toList :=
      Text.splitAt_joined hset.1 h
    simp [values, legibleValues, nonempty, hset.2, parts, Function.comp_def]

theorem clause?_append (h : Unmarked clause) (rest : List Char) :
    clause? ((renderClause clause).toList ++ rest) =
      some ((clause.1, legibleValues clause.2), rest) := by
  obtain ⟨key, set⟩ := clause
  have ⟨hkey, hset⟩ := h
  -- The first closing parenthesis is the one that the clause ends with.
  have closing : ')' ∉ (Text.joined "," set).toList := by
    intro mem
    rcases Text.mem_toList_joined mem with separator | ⟨value, hvalue, hc⟩
    · revert separator
      decide
    · exact (hset value hvalue).2 hc
  have written : (renderClause (key, set)).toList ++ rest =
      key.toList ++ opening ++ ((Text.joined "," set).toList ++ ')' :: rest) := by
    simp [toList_renderClause]
  have cutKey : Text.cut? opening ((renderClause (key, set)).toList ++ rest) =
      some (key.toList, (Text.joined "," set).toList ++ ')' :: rest) :=
    (congrArg (Text.cut? opening) written).trans (Text.cut?_append hkey)
  have cutValues : Text.cut? [')'] ((Text.joined "," set).toList ++ ')' :: rest) =
      some ((Text.joined "," set).toList, rest) := by
    have found : Text.cut? [')'] ((Text.joined "," set).toList ++ [')'] ++ rest) =
        some ((Text.joined "," set).toList, rest) := Text.cut?_append closing
    simpa using found
  simp [clause?, cutKey, cutValues, values_joined fun value mem => (hset value mem).1]

theorem clauses?_of_last (h : clause? cs = some (clause, [])) : clauses? cs = some [clause] := by
  rw [clauses?]
  split <;> simp_all

theorem clauses?_of_more (h : clause? cs = some (clause, ',' :: rest)) :
    clauses? cs = (clauses? rest).map (clause :: ·) := by
  rw [clauses?]
  split <;> simp_all

/-- Clauses are read as they are written, except that the empty value alone is not seen. -/
theorem clauses?_render (nonempty : clauses ≠ []) (h : ∀ clause ∈ clauses, Unmarked clause) :
    clauses? (render ⟨clauses⟩).toList = some (Dict.mapped legibleValues clauses) := by
  induction clauses with
  | nil => exact absurd rfl nonempty
  | cons clause rest ih =>
      have ⟨hclause, hrest⟩ := List.forall_mem_cons.1 h
      cases rest with
      | nil =>
          have read := clause?_append hclause []
          simpa [render, Text.joined, Dict.mapped] using clauses?_of_last (by simpa using read)
      | cons next more =>
          have written : (render ⟨clause :: next :: more⟩).toList =
              (renderClause clause).toList ++ ',' :: (render ⟨next :: more⟩).toList := by
            simp [render, Text.joined]
          calc
            clauses? (render ⟨clause :: next :: more⟩).toList
                = (clauses? (render ⟨next :: more⟩).toList).map
                    ((clause.1, legibleValues clause.2) :: ·) := by
                  rw [written]
                  exact clauses?_of_more (clause?_append hclause _)
            _ = some (Dict.mapped legibleValues (clause :: next :: more)) := by
                  simp [ih (List.cons_ne_nil _ _) hrest, Dict.mapped]

/-! ## Selectors of queries -/

theorem read?_selector? (h : ∀ clause ∈ query.required, Unmarked clause) :
    read? query.selector? = some (Dict.mapped legibleValues query.required) := by
  by_cases none : query.required = []
  · simp [selector?_eq, none, read?, Dict.mapped]
  · simpa [selector?_eq, none, read?] using clauses?_render none h

/-- A selector that reads as what a query requires is the selector of the query. -/
theorem eq_selector?_of_read? {selector : Option String}
    (h : read? selector = some query.required) : selector = query.selector? := by
  cases selector with
  | none =>
      have none : query.required = [] := by simpa [read?] using h.symm
      simp [selector?_eq, none]
  | some text =>
      have ⟨nonempty, written⟩ := eq_of_clauses? h
      simp [selector?_eq, nonempty, String.toList_inj.1 written]

end SelectorText

namespace LabelQuery

/-- A character of the label alphabet: no comma, no parenthesis and no white space. -/
def isLabelChar (c : Char) : Bool := c != ',' && c != '(' && c != ')' && !Text.isWhite c

def isLabelText (s : String) : Bool := !s.isEmpty && s.toList.all isLabelChar

/-- Every required key and every accepted value is a label text, and every key has a value. -/
def isLegible (query : LabelQuery) : Bool :=
  query.required.all fun (key, values) =>
    isLabelText key && !values.isEmpty && values.all isLabelText

open SelectorText

variable {query : LabelQuery}

theorem notMem_of_isLabelText {s : String} {c : Char} (h : isLabelText s = true)
    (other : isLabelChar c = false) : c ∉ s.toList := by
  intro mem
  have label : isLabelChar c = true := List.all_eq_true.1 (Bool.and_eq_true_iff.1 h).2 c mem
  exact Bool.false_ne_true (other.symm.trans label)

/-- A legible query is read as it is. -/
theorem read?_selector?_of_isLegible (h : query.isLegible = true) :
    read? query.selector? = some query.required := by
  have legible : ∀ clause ∈ query.required, isLabelText clause.1 = true ∧
      ∀ value ∈ clause.2, isLabelText value = true := by
    intro clause mem
    have all := List.all_eq_true.1 h clause mem
    simp only [Bool.and_eq_true, List.all_eq_true] at all
    exact ⟨all.1.1, all.2⟩
  have unmarked : ∀ clause ∈ query.required, Unmarked clause := by
    intro clause mem
    have ⟨key, values⟩ := legible clause mem
    refine ⟨notMem_of_isLabelText key (by decide), ?_⟩
    intro value hvalue
    have plain := values value hvalue
    exact ⟨notMem_of_isLabelText plain (by decide), notMem_of_isLabelText plain (by decide)⟩
  have unchanged : ∀ clause ∈ query.required, (clause.1, legibleValues clause.2) = clause := by
    intro clause mem
    have ⟨key, values⟩ := legible clause mem
    have notBlank : clause.2 ≠ [""] := by
      intro blank
      have empty : isLabelText "" = true := values "" (by simp [blank])
      exact absurd empty (by decide)
    simp [legibleValues, notBlank]
  calc
    read? query.selector? = some (Dict.mapped legibleValues query.required) :=
      read?_selector? unmarked
    _ = some query.required :=
      congrArg some ((List.map_congr_left unchanged).trans (List.map_id _))

/-- Over the label alphabet a selector determines its query: two queries with one selector are
equal, and so accept the same labels. The selector is the only one that reads as what the query
requires, key by key and value by value, with the keys and the values of each key in strictly
ascending order. -/
theorem selector_determines_query (demands others : List Demand)
    (legible : (built demands).isLegible = true)
    (legible' : (built others).isLegible = true) :
    ((built demands).selector? = (built others).selector? →
        built demands = built others ∧
          ∀ labels, (built demands).accepts labels = (built others).accepts labels) ∧
      (∀ selector,
        read? selector = some (built demands).required ↔ selector = (built demands).selector?) ∧
      Dict.Ascending (built demands).required ∧
      ∀ clause ∈ (built demands).required, TextSet.Ascending clause.2 := by
  have h := unites_built demands
  refine ⟨?_, ?_, h.ascending, ?_⟩
  · intro same
    have required_eq : some (built demands).required = some (built others).required :=
      calc
        some (built demands).required = read? (built demands).selector? :=
          (read?_selector?_of_isLegible legible).symm
        _ = read? (built others).selector? := congrArg read? same
        _ = some (built others).required := read?_selector?_of_isLegible legible'
    have query_eq : built demands = built others :=
      congrArg LabelQuery.mk (Option.some.inj required_eq)
    exact ⟨query_eq, fun labels => congrArg (accepts · labels) query_eq⟩
  · intro selector
    constructor
    · exact eq_selector?_of_read?
    · rintro rfl
      exact read?_selector?_of_isLegible legible
  · rintro ⟨key, values⟩ mem
    rcases h.mem_required_iff.1 mem with ⟨-, rfl⟩
    exact h.sorted key

theorem webDemands_have_one_selector :
    (built webDemands).isLegible = true ∧ (built scatteredDemands).isLegible = true ∧
      built webDemands = built scatteredDemands ∧
      read? (some "app in (web),role in (frontend,history)") =
        some [("app", ["web"]), ("role", ["frontend", "history"])] := by
  have legible : (built webDemands).isLegible = true := by decide
  have legible' : (built scatteredDemands).isLegible = true := by decide
  rcases selector_determines_query webDemands scatteredDemands legible legible' with
    ⟨same, reads, -⟩
  exact ⟨legible, legible', (same (by decide)).1, (reads _).2 (by decide)⟩

end LabelQuery

end Readiness
