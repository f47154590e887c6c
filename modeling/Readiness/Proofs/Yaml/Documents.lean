import Mathlib.Data.List.Basic
import Readiness.Proofs.Attempt.Sequence
import Readiness.Yaml.Content

/-!
# Documents — what a text holds and what spoils it

* `Yaml.Holds`: the content of the document at a place of a text. Documents that are null hold
  nothing;
* `Yaml.Spoils`: why a text cannot be read as a whole;
* `Yaml.placed` lists the contents with their places. `mem_placed_iff` and `pairwise_placed` say that
  it has all of them in order, and `map_snd_placed` that reading a text returns them;
* `spoils_of_readDocuments` and `readDocuments_ne_ok`: a text that cannot be read is spoilt by what is
  told of it, and a spoilt text cannot be read.
-/

namespace Readiness.Yaml

open Json (Value)

/-- The document at a place of a text is not null, and this is its content. A text in braces is its
only document. -/
inductive Holds (text : String) : Nat → Value → Prop
  | json {value : Value} (json : looksLikeJson text = true) (read : Json.read? text = some value) :
      Holds text 0 value
  | yaml {nodes : List Node} {number : Nat} {node : Node} {value : Value}
      (yaml : looksLikeJson text = false) (read : readNodes? text = some nodes)
      (here : nodes[number]? = some node) (present : node.isNull = false)
      (content : node.toValue = .ok value) : Holds text number value

/-- A reason why a text cannot be read as a whole. -/
inductive Spoils (text : String) : ContentError → Prop
  | json (json : looksLikeJson text = true) (unread : Json.read? text = none) :
      Spoils text .invalidJson
  | yaml (yaml : looksLikeJson text = false) (unread : readNodes? text = none) :
      Spoils text .malformed
  | node {nodes : List Node} {node : Node} {error : ContentError}
      (yaml : looksLikeJson text = false) (read : readNodes? text = some nodes)
      (mem : node ∈ nodes) (fails : node.toValue = .error error) : Spoils text error

variable {text : String} {nodes : List Node} {documents values : List Value} {number : Nat}
  {value : Value} {error : ContentError}

/-! ## Contents of nodes -/

theorem itemValues_eq_mapM (nodes : List Node) :
    Node.itemValues nodes = nodes.mapM Node.toValue := by
  induction nodes with
  | nil => rfl
  | cons node rest ih =>
      rw [Node.itemValues, ih, List.mapM_cons]
      rfl

theorem filterMap_of_itemValues (h : Node.itemValues nodes = .ok values) :
    nodes.filterMap (fun node => node.toValue.toOption) = values := by
  rw [itemValues_eq_mapM, Attempt.mapM_eq_ok_iff] at h
  induction h with
  | nil => rfl
  | cons content _ ih =>
      rw [List.filterMap_cons, content, ih]
      rfl

/-- A node that has no content is not null. -/
theorem isNull_eq_false_of_error {node : Node} (h : node.toValue = .error error) :
    node.isNull = false := by
  cases node with
  | null => simp [Node.toValue] at h
  | _ => rfl

/-! ## Contents with their places -/

/-- The content of a node that is not null, with the place of the node. -/
def placedContent? (entry : Node × Nat) : Option (Nat × Value) :=
  if entry.1.isNull then none else entry.1.toValue.toOption.map fun value => (entry.2, value)

/-- The contents of a text with the places of their documents. -/
def placed (text : String) : List (Nat × Value) :=
  if looksLikeJson text then (Json.read? text).toList.map fun value => (0, value)
  else ((readNodes? text).getD []).zipIdx.filterMap placedContent?

theorem placed_of_json (json : looksLikeJson text = true) :
    placed text = (Json.read? text).toList.map fun value => (0, value) := if_pos json

theorem placed_of_nodes (yaml : looksLikeJson text = false) (read : readNodes? text = some nodes) :
    placed text = nodes.zipIdx.filterMap placedContent? := by
  simp [placed, yaml, read]

theorem placedContent?_eq_some_iff {entry : Node × Nat} :
    placedContent? entry = some (number, value) ↔
      entry.1.isNull = false ∧ entry.1.toValue = .ok value ∧ entry.2 = number := by
  by_cases null : entry.1.isNull = true
  · simp [placedContent?, null]
  · simp [placedContent?, null, Attempt.toOption_eq_some_iff, and_comm]

theorem mem_placed_iff : (number, value) ∈ placed text ↔ Holds text number value := by
  constructor
  · intro mem
    cases json : looksLikeJson text with
    | true =>
        have ⟨read, here⟩ : Json.read? text = some value ∧ 0 = number := by
          simpa [placed_of_json json] using mem
        exact here ▸ .json json read
    | false =>
        cases read : readNodes? text with
        | none => simp [placed, json, read] at mem
        | some nodes =>
            rw [placed_of_nodes json read, List.mem_filterMap] at mem
            rcases mem with ⟨⟨node, place⟩, mem, found⟩
            rcases placedContent?_eq_some_iff.1 found with ⟨present, content, rfl⟩
            exact .yaml json read (List.mem_zipIdx_iff_getElem?.1 mem) present content
  · intro holds
    cases holds with
    | json json read => simp [placed_of_json json, read]
    | @yaml nodes _ node _ json read here present content =>
        rw [placed_of_nodes json read, List.mem_filterMap]
        exact ⟨(node, number), List.mem_zipIdx_iff_getElem?.2 here,
          placedContent?_eq_some_iff.2 ⟨present, content, rfl⟩⟩

theorem pairwise_zipIdx {α : Type} (xs : List α) :
    xs.zipIdx.Pairwise fun earlier later => earlier.2 < later.2 := by
  have places : (xs.zipIdx.map (·.2)).Pairwise (· < ·) := by
    simpa [List.zipIdx_map_snd] using List.pairwise_lt_range'
  exact List.pairwise_map.1 places

theorem pairwise_placed (text : String) :
    (placed text).Pairwise fun earlier later => earlier.1 < later.1 := by
  unfold placed
  split
  · cases Json.read? text <;> simp
  · rw [List.pairwise_filterMap]
    refine (pairwise_zipIdx _).imp ?_
    rintro ⟨node, number⟩ ⟨node', number'⟩ before ⟨_, value⟩ content ⟨_, value'⟩ content'
    rcases placedContent?_eq_some_iff.1 content with ⟨-, -, rfl⟩
    rcases placedContent?_eq_some_iff.1 content' with ⟨-, -, rfl⟩
    exact before

/-- What is read of a text are its contents, in the order of their places. -/
theorem map_snd_placed (h : readDocuments text = .ok documents) :
    (placed text).map (·.2) = documents := by
  unfold readDocuments at h
  cases json : looksLikeJson text with
  | true =>
      cases read : Json.read? text with
      | none => simp [json, read] at h
      | some value =>
          have same : [value] = documents := by simpa [json, read] using h
          simp [placed_of_json json, read, ← same]
  | false =>
      cases read : readNodes? text with
      | none => simp [json, read] at h
      | some nodes =>
          have values : Node.itemValues (nodes.filter fun node => !node.isNull) = .ok documents := by
            simpa [json, read] using h
          have content (entry : Node × Nat) : (placedContent? entry).map (·.2) =
              if !entry.1.isNull then entry.1.toValue.toOption else none := by
            by_cases null : entry.1.isNull = true
            · simp [placedContent?, null]
            · simp [placedContent?, null, Function.comp_def]
          calc
            (placed text).map (·.2)
                = nodes.zipIdx.filterMap fun entry => (placedContent? entry).map (·.2) := by
                  rw [placed_of_nodes json read, List.map_filterMap]
            _ = (nodes.zipIdx.map (·.1)).filterMap fun node =>
                  if !node.isNull then node.toValue.toOption else none := by
                  rw [List.filterMap_map]
                  exact congrArg (List.filterMap · _) (funext content)
            _ = (nodes.filter fun node => !node.isNull).filterMap fun node =>
                  node.toValue.toOption := by
                  rw [List.zipIdx_map_fst, List.filterMap_filter]
            _ = documents := filterMap_of_itemValues values

/-! ## Texts that can be read -/

theorem spoils_of_readDocuments (h : readDocuments text = .error error) : Spoils text error := by
  unfold readDocuments at h
  cases json : looksLikeJson text with
  | true =>
      cases read : Json.read? text with
      | some value => simp [json, read] at h
      | none =>
          have same : ContentError.invalidJson = error := by simpa [json, read] using h
          exact same ▸ .json json read
  | false =>
      cases read : readNodes? text with
      | none =>
          have same : ContentError.malformed = error := by simpa [json, read] using h
          exact same ▸ .yaml json read
      | some nodes =>
          have unread : Node.itemValues (nodes.filter fun node => !node.isNull) = .error error := by
            simpa [json, read] using h
          rw [itemValues_eq_mapM] at unread
          rcases Attempt.exists_mem_of_mapM unread with ⟨node, mem, fails⟩
          exact .node json read (List.mem_of_mem_filter mem) fails

theorem readDocuments_ne_ok (spoils : Spoils text error) : readDocuments text ≠ .ok documents := by
  cases spoils with
  | json json unread => simp [readDocuments, json, unread]
  | yaml yaml unread => simp [readDocuments, yaml, unread]
  | @node nodes node _ yaml read mem fails =>
      have kept : node ∈ nodes.filter fun node => !node.isNull := by
        simpa [isNull_eq_false_of_error fails] using mem
      intro parsed
      have values : Node.itemValues (nodes.filter fun node => !node.isNull) = .ok documents := by
        simpa [readDocuments, yaml, read] using parsed
      rw [itemValues_eq_mapM] at values
      rcases Attempt.exists_mapM_iff.1 ⟨documents, values⟩ node kept with ⟨value, content⟩
      cases fails.symm.trans content

end Readiness.Yaml
