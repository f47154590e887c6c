import Mathlib
import Readiness.Proofs.Dict.Lookup
import Readiness.Proofs.Yaml.Documents
import Readiness.Proofs.Yaml.Trees

/-!
# Conversion — the content of a tree has its structure

* `Node.Carries`: plain data have the structure of a tree. Sequences become arrays item by item, and
  an object holds under each key the value of the last entry whose key has that text;
* `Node.toValue_seq_eq_ok_iff` and `Node.toValue_map_eq_ok_iff`: the contents of collections are made
  of the contents of their parts;
* `Node.content_keeps_structure`: a tree without a flaw has a content with its structure, a tree with
  one fails with the first, and a text has the contents of its documents that are not null.
-/

namespace Readiness.Yaml

open Json (Value)

namespace Node

variable {items : List Node} {entries : List (Node × Node)} {value : Value} {read dict : Dict Value}

/-- Plain data with the structure of a tree. -/
inductive Carries : Node → Value → Prop
  | null : Carries null .null
  | bool (b : Bool) : Carries (bool b) (.bool b)
  | int (i : Int) : Carries (int i) (.num (.int i))
  | str (s : String) : Carries (str s) (.str s)
  | finite {text : String} {x : Binary64} (reads : readFloat? text = some x)
      (finite : x.isFinite = true) : Carries (real text) (.num (.float x))
  | infinite {text : String} {x : Binary64} (reads : readFloat? text = some x)
      (infinite : x.isFinite = false) : Carries (real text) .null
  | seq {items : List Node} {values : List Value} (each : List.Forall₂ Carries items values) :
      Carries (seq items) (.arr values)
  | map {entries : List (Node × Node)} {dict : Dict Value} (ascending : Dict.Ascending dict)
      (keys : ∀ name, name ∈ Dict.keys dict ↔ ∃ entry ∈ entries, entry.1.keyText = .ok name)
      (last : ∀ before key value behind name content, entries = before ++ (key, value) :: behind →
        key.keyText = .ok name → (∀ later ∈ behind, later.1.keyText ≠ .ok name) →
        Dict.find? name dict = some content → Carries value content) :
      Carries (map entries) (.obj dict)

/-! ## Contents of collections -/

/-- The text of the key and the content of the value of an entry. -/
def ReadsAs (entry : Node × Node) (pair : String × Value) : Prop :=
  entry.1.keyText = .ok pair.1 ∧ entry.2.toValue = .ok pair.2

theorem toValue_seq_eq_ok_iff : (seq items).toValue = .ok value ↔
    ∃ values, List.Forall₂ (fun item content => item.toValue = .ok content) items values ∧
      .arr values = value := by
  rw [toValue, Attempt.map_eq_ok_iff, itemValues_eq_mapM]
  simp only [Attempt.mapM_eq_ok_iff]

theorem entryValues_eq_ok_iff : entryValues read entries = .ok dict ↔
    ∃ pairs, List.Forall₂ ReadsAs entries pairs ∧ Dict.insertAll pairs read = dict := by
  induction entries generalizing read with
  | nil => simp [entryValues, Dict.insertAll]
  | cons entry rest ih =>
      obtain ⟨key, value⟩ := entry
      simp only [entryValues, Attempt.bind_eq_ok_iff, ih, List.forall₂_cons_left_iff]
      constructor
      · rintro ⟨name, hname, content, hcontent, pairs, each, rfl⟩
        exact ⟨(name, content) :: pairs, ⟨_, _, ⟨hname, hcontent⟩, each, rfl⟩, rfl⟩
      · rintro ⟨_, ⟨⟨name, content⟩, pairs, ⟨hname, hcontent⟩, each, rfl⟩, rfl⟩
        exact ⟨name, hname, content, hcontent, pairs, each, rfl⟩

theorem toValue_map_eq_ok_iff : (map entries).toValue = .ok value ↔
    ∃ pairs, List.Forall₂ ReadsAs entries pairs ∧ .obj (Dict.ofList pairs) = value := by
  rw [toValue, Attempt.map_eq_ok_iff]
  simp only [entryValues_eq_ok_iff]
  constructor
  · rintro ⟨_, ⟨pairs, each, rfl⟩, rfl⟩
    exact ⟨pairs, each, rfl⟩
  · rintro ⟨pairs, each, rfl⟩
    exact ⟨_, ⟨pairs, each, rfl⟩, rfl⟩

/-- The keys that are read are the texts of the keys. -/
theorem mem_keys_of_readsAs {pairs : List (String × Value)} {name : String}
    (each : List.Forall₂ ReadsAs entries pairs) :
    name ∈ Dict.keys pairs ↔ ∃ entry ∈ entries, entry.1.keyText = .ok name := by
  induction each with
  | nil => simp [Dict.keys]
  | @cons entry pair entries pairs reads _ ih =>
      have first : pair.1 = name ↔ entry.1.keyText = .ok name := by
        rw [reads.1, Except.ok.injEq]
      have split : Dict.keys (pair :: pairs) = pair.1 :: Dict.keys pairs := rfl
      rw [split, List.mem_cons, ih, eq_comm, first]
      simp

/-! ## Structure -/

/-- An entry with no later one of the same text gives the value under that text. -/
theorem exists_find?_of_last {pairs : List (String × Value)} {before behind : List (Node × Node)}
    {key node : Node} {name : String}
    (each : List.Forall₂ ReadsAs (before ++ (key, node) :: behind) pairs)
    (text : key.keyText = .ok name) (last : ∀ later ∈ behind, later.1.keyText ≠ .ok name) :
    ∃ content, node.toValue = .ok content ∧
      Dict.find? name (Dict.ofList pairs) = some content := by
  rcases Attempt.exists_split_of_forall₂ each with
    ⟨front, ⟨name', content⟩, back, rfl, -, ⟨text', reads⟩, hback⟩
  have same : name = name' := Except.ok.inj (text.symm.trans text')
  subst same
  have once : name ∉ Dict.keys back := by
    intro mem
    rcases (mem_keys_of_readsAs hback).1 mem with ⟨later, here, same⟩
    exact last later here same
  exact ⟨content, reads, Dict.find?_ofList_of_last once⟩

mutual

theorem carries_of_toValue (node : Node) {value : Value} (h : node.toValue = .ok value) :
    node.Carries value := by
  cases node with
  | null =>
      cases h
      exact .null
  | bool b =>
      cases h
      exact .bool b
  | int i =>
      cases h
      exact .int i
  | str s =>
      cases h
      exact .str s
  | real text =>
      rw [toValue, realValue] at h
      cases reads : readFloat? text with
      | none => simp [reads] at h
      | some x =>
          simp only [reads, Except.ok.injEq] at h
          cases bound : x.isFinite with
          | true => simpa [← h, bound] using Carries.finite reads bound
          | false => simpa [← h, bound] using Carries.infinite reads bound
  | seq items =>
      rcases toValue_seq_eq_ok_iff.1 h with ⟨values, each, rfl⟩
      exact .seq (carries_items items each)
  | map entries =>
      rcases toValue_map_eq_ok_iff.1 h with ⟨pairs, each, rfl⟩
      refine .map (Dict.ascending_ofList pairs) ?_ ?_
      · intro name
        rw [Dict.mem_keys_ofList_iff, mem_keys_of_readsAs each]
      · intro before key value behind name content split text last found
        have mem : (key, value) ∈ entries := by simp [split]
        rcases exists_find?_of_last (split ▸ each) text last with ⟨content', reads, found'⟩
        cases found.symm.trans found'
        exact carries_entries entries (key, value) mem reads
  | reference id => cases h
  | bad => cases h

theorem carries_items (items : List Node) {values : List Value}
    (each : List.Forall₂ (fun item content => item.toValue = .ok content) items values) :
    List.Forall₂ Carries items values := by
  cases items with
  | nil =>
      cases each
      exact .nil
  | cons item rest =>
      cases each with
      | cons first later => exact .cons (carries_of_toValue item first) (carries_items rest later)

theorem carries_entries (entries : List (Node × Node)) (entry : Node × Node) {content : Value}
    (mem : entry ∈ entries) (h : entry.2.toValue = .ok content) : entry.2.Carries content := by
  cases entries with
  | nil => cases mem
  | cons first rest =>
      obtain ⟨key, value⟩ := first
      cases List.mem_cons.1 mem with
      | inl same =>
          cases same
          exact carries_of_toValue value h
      | inr later => exact carries_entries rest entry later h

end

/-! ## Documents -/

theorem failure?_present (nodes : List Node) :
    Attempt.failure? (itemValues (nodes.filter fun node => !node.isNull)) =
      Attempt.failure? (itemValues nodes) := by
  simp only [failure?_itemValues]
  induction nodes with
  | nil => rfl
  | cons node rest ih =>
      cases null : node.isNull with
      | true =>
          -- A null has no flaw, so nothing is missed when it is left out.
          have sound : node.parts.findSome? Part.flaw? = none := by
            cases node with
            | null => rfl
            | _ => cases null
          rw [List.filter_cons_of_neg (by simp [null]), ih, itemParts, List.findSome?_append, sound,
            Option.none_or]
      | false =>
          rw [List.filter_cons_of_pos (by simp [null]), itemParts, itemParts,
            List.findSome?_append, List.findSome?_append, ih]

theorem readDocuments_of_nodes {text : String} {nodes : List Node}
    (yaml : looksLikeJson text = false) (read : readNodes? text = some nodes) :
    readDocuments text = itemValues (nodes.filter fun node => !node.isNull) := by
  simp [readDocuments, yaml, read]

/-- Nothing of a tree is lost or changed on the way to plain data. A tree has a content unless a part
of it has a flaw, and then it fails with the first flaw of the document. A text that is no JSON gives
the contents of its documents in order, without those that are null, and fails as the first document
does that fails. -/
theorem content_keeps_structure (root : Node) :
    ((∃ error, root.toValue = .error error) ↔
        ∃ part flaw, root.HasPart part ∧ part.flaw? = some flaw) ∧
      (∀ error, root.toValue = .error error ↔ root.FirstFlaw error) ∧
      (∀ value, root.toValue = .ok value → root.Carries value) ∧
      ∀ text nodes, looksLikeJson text = false → readNodes? text = some nodes →
        (∀ documents, readDocuments text = .ok documents ↔
          List.Forall₂ (fun node document => node.toValue = .ok document)
            (nodes.filter fun node => !node.isNull) documents) ∧
        ∀ error, readDocuments text = .error error ↔
          ∃ front node back, nodes = front ++ node :: back ∧
            (∀ earlier ∈ front, ∃ value, earlier.toValue = .ok value) ∧
            node.toValue = .error error := by
  refine ⟨?_, fun error => toValue_eq_error_iff, fun value => carries_of_toValue root, ?_⟩
  · simp only [toValue_eq_error_iff]
    exact exists_firstFlaw_iff
  · intro text nodes yaml read
    rw [readDocuments_of_nodes yaml read]
    constructor
    · intro documents
      rw [itemValues_eq_mapM, Attempt.mapM_eq_ok_iff]
    · intro error
      rw [← Attempt.failure?_eq_some_iff, failure?_present, Attempt.failure?_eq_some_iff,
        itemValues_eq_mapM, Attempt.mapM_eq_error_iff]

theorem readNodes?_countedText : readNodes? "~\n---\nn: 1\n" =
    some [null, map [(str "n", int 1)]] := by
  cbv

/-- Of two documents the one that is null is left out, and the other one keeps its entry. -/
theorem countedText_keeps_its_entry :
    readDocuments "~\n---\nn: 1\n" = .ok [.obj [("n", .num (.int 1))]] ∧
      (map [(str "n", int 1)]).Carries (.obj [("n", .num (.int 1))]) := by
  have content : (map [(str "n", int 1)]).toValue = .ok (.obj [("n", .num (.int 1))]) := rfl
  rcases content_keeps_structure (map [(str "n", int 1)]) with ⟨-, -, carries, documents⟩
  have yaml : looksLikeJson "~\n---\nn: 1\n" = false := by decide
  rcases documents _ _ yaml readNodes?_countedText with ⟨contents, -⟩
  exact ⟨(contents _).2 (.cons content .nil), carries _ content⟩

end Node

end Readiness.Yaml
