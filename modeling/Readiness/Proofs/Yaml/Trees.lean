import Readiness.Proofs.Attempt.Sequence
import Readiness.Yaml.Content

/-!
# Trees — the parts of a node, and which flaw comes first

* `Node.HasPart`: a value or a key stands in a tree. Values are reached through items of sequences and
  values of mappings, keys are those of a mapping that is reached;
* `Node.parts` lists these parts in the order of the document, a key before its value;
* `Part.flaw?` is what is wrong with a part by itself, and `Node.FirstFlaw` the flaw that comes first;
* `Node.toValue_eq_error_iff`: a tree has no content exactly when a part has a flaw, and the failure
  is the first one.
-/

namespace Readiness.Yaml

open Json (Value)

/-- What stands at a place of a tree. -/
inductive Part where
  | value (node : Node)
  | key (node : Node)

/-- What is wrong with a part, apart from what stands below it. -/
def Part.flaw? : Part → Option ContentError
  | value (.reference _) => some .unresolved
  | value .bad => some .unresolved
  | value (.real text) => if (Node.readFloat? text).isSome then none else some (.invalidFloat text)
  | value _ => none
  | key (.str _) => none
  | key (.real _) => none
  | key (.int _) => none
  | key (.bool _) => none
  | key node => some (.unsupportedKey node)

namespace Node

variable {root : Node} {part : Part} {error : ContentError}

/-- A part stands in a tree, at any depth. -/
inductive HasPart : Node → Part → Prop
  | root (node : Node) : HasPart node (.value node)
  | item {items : List Node} {item : Node} {part : Part} (mem : item ∈ items)
      (within : HasPart item part) : HasPart (seq items) part
  | key {entries : List (Node × Node)} {entry : Node × Node} (mem : entry ∈ entries) :
      HasPart (map entries) (.key entry.1)
  | value {entries : List (Node × Node)} {entry : Node × Node} {part : Part} (mem : entry ∈ entries)
      (within : HasPart entry.2 part) : HasPart (map entries) part

mutual

/-- The parts of a tree, each one before what stands below or behind it. -/
def parts : Node → List Part
  | seq items => .value (seq items) :: itemParts items
  | map entries => .value (map entries) :: entryParts entries
  | node => [.value node]

def itemParts : List Node → List Part
  | [] => []
  | item :: rest => parts item ++ itemParts rest

def entryParts : List (Node × Node) → List Part
  | [] => []
  | (key, value) :: rest => .key key :: parts value ++ entryParts rest

end

/-- The first part with a flaw has this one. -/
def FirstFlaw (root : Node) (error : ContentError) : Prop :=
  ∃ front part back, root.parts = front ++ part :: back ∧
    part.flaw? = some error ∧ ∀ earlier ∈ front, earlier.flaw? = none

/-! ## All parts are listed -/

theorem hasPart_seq_iff {items : List Node} : (seq items).HasPart part ↔
    part = .value (seq items) ∨ ∃ item ∈ items, item.HasPart part := by
  constructor
  · intro h
    cases h with
    | root => exact .inl rfl
    | item mem within => exact .inr ⟨_, mem, within⟩
  · rintro (rfl | ⟨item, mem, within⟩)
    · exact .root _
    · exact .item mem within

theorem hasPart_map_iff {entries : List (Node × Node)} : (map entries).HasPart part ↔
    part = .value (map entries) ∨ ∃ entry ∈ entries, part = .key entry.1 ∨ entry.2.HasPart part := by
  constructor
  · intro h
    cases h with
    | root => exact .inl rfl
    | key mem => exact .inr ⟨_, mem, .inl rfl⟩
    | value mem within => exact .inr ⟨_, mem, .inr within⟩
  · rintro (rfl | ⟨entry, mem, rfl | within⟩)
    · exact .root _
    · exact .key mem
    · exact .value mem within

mutual

theorem mem_parts_iff (root : Node) {part : Part} : part ∈ root.parts ↔ root.HasPart part := by
  cases root with
  | seq items => rw [parts, List.mem_cons, mem_itemParts_iff items, hasPart_seq_iff]
  | map entries => rw [parts, List.mem_cons, mem_entryParts_iff entries, hasPart_map_iff]
  | _ =>
      constructor
      · intro mem
        cases List.mem_singleton.1 mem
        exact .root _
      · intro h
        cases h
        exact List.mem_singleton.2 rfl

theorem mem_itemParts_iff (items : List Node) {part : Part} :
    part ∈ itemParts items ↔ ∃ item ∈ items, item.HasPart part := by
  cases items with
  | nil => simp [itemParts]
  | cons item rest =>
      rw [itemParts, List.mem_append, mem_parts_iff item, mem_itemParts_iff rest]
      simp

theorem mem_entryParts_iff (entries : List (Node × Node)) {part : Part} :
    part ∈ entryParts entries ↔ ∃ entry ∈ entries, part = .key entry.1 ∨ entry.2.HasPart part := by
  cases entries with
  | nil => simp [entryParts]
  | cons entry rest =>
      obtain ⟨key, value⟩ := entry
      rw [entryParts, List.mem_append, List.mem_cons, mem_parts_iff value, mem_entryParts_iff rest]
      simp

end

theorem exists_firstFlaw_iff : (∃ error, root.FirstFlaw error) ↔
    ∃ part error, root.HasPart part ∧ part.flaw? = some error := by
  constructor
  · rintro ⟨error, front, part, back, split, flaw, -⟩
    exact ⟨part, error, (mem_parts_iff root).1 (by simp [split]), flaw⟩
  · rintro ⟨part, error, here, flaw⟩
    have some : (root.parts.findSome? Part.flaw?).isSome = true :=
      List.findSome?_isSome_iff.2 ⟨part, (mem_parts_iff root).2 here, by simp [flaw]⟩
    rcases Option.isSome_iff_exists.1 some with ⟨first, found⟩
    exact ⟨first, List.findSome?_eq_some_iff.1 found⟩

/-- What stands in a part of a tree stands in the tree. -/
theorem HasPart.trans {inner : Node} (h : root.HasPart (.value inner)) (below : inner.HasPart part) :
    root.HasPart part := by
  generalize same : Part.value inner = middle at h
  induction h with
  | root node =>
      cases same
      exact below
  | item mem _ ih => exact .item mem (ih same)
  | key mem => cases same
  | value mem _ ih => exact .value mem (ih same)

/-! ## The first flaw is the failure -/

theorem failure?_realValue (text : String) :
    Attempt.failure? (realValue text) = (Part.value (real text)).flaw? := by
  cases read : readFloat? text <;> simp [realValue, Part.flaw?, read]

theorem failure?_keyText (key : Node) : Attempt.failure? key.keyText = (Part.key key).flaw? := by
  cases key <;> rfl

mutual

theorem failure?_toValue (node : Node) :
    Attempt.failure? node.toValue = node.parts.findSome? Part.flaw? := by
  cases node with
  | real text => simp [toValue, parts, failure?_realValue]
  | seq items =>
      rw [toValue, Attempt.failure?_map, failure?_itemValues items, parts, List.findSome?_cons]
      rfl
  | map entries =>
      rw [toValue, Attempt.failure?_map, failure?_entryValues entries, parts, List.findSome?_cons]
      rfl
  | _ => rfl

theorem failure?_itemValues (items : List Node) :
    Attempt.failure? (itemValues items) = (itemParts items).findSome? Part.flaw? := by
  cases items with
  | nil => rfl
  | cons item rest =>
      have further (value : Value) :
          Attempt.failure? (itemValues rest >>= fun values => .ok (value :: values)) =
            (itemParts rest).findSome? Part.flaw? := by
        rw [← failure?_itemValues rest, ← (Attempt.failure? (itemValues rest)).or_none]
        exact Attempt.failure?_bind fun _ => rfl
      rw [itemValues, itemParts, List.findSome?_append, ← failure?_toValue item]
      exact Attempt.failure?_bind further

theorem failure?_entryValues (entries : List (Node × Node)) (read : Dict Value) :
    Attempt.failure? (entryValues read entries) = (entryParts entries).findSome? Part.flaw? := by
  cases entries with
  | nil => rfl
  | cons entry rest =>
      obtain ⟨key, value⟩ := entry
      have behind (name : String) :
          Attempt.failure? (value.toValue >>= fun content =>
              entryValues (Dict.insert name content read) rest) =
            (value.parts ++ entryParts rest).findSome? Part.flaw? := by
        rw [List.findSome?_append, ← failure?_toValue value]
        exact Attempt.failure?_bind fun content => failure?_entryValues rest _
      have split : entryParts ((key, value) :: rest) =
          [Part.key key] ++ (value.parts ++ entryParts rest) := rfl
      rw [entryValues, split, List.findSome?_append, List.findSome?_singleton, ← failure?_keyText]
      exact Attempt.failure?_bind behind

end

theorem toValue_eq_error_iff : root.toValue = .error error ↔ root.FirstFlaw error := by
  rw [← Attempt.failure?_eq_some_iff, failure?_toValue, List.findSome?_eq_some_iff, FirstFlaw]

/-- Every node of a tree with a content has a content. -/
theorem HasPart.exists_toValue {inner : Node} (h : root.HasPart (.value inner))
    (content : ∃ value, root.toValue = .ok value) : ∃ value, inner.toValue = .ok value := by
  cases below : inner.toValue with
  | ok value => exact ⟨value, rfl⟩
  | error error =>
      rcases exists_firstFlaw_iff.1 ⟨error, toValue_eq_error_iff.1 below⟩ with
        ⟨part, flaw, here, flawed⟩
      rcases exists_firstFlaw_iff.2 ⟨part, flaw, h.trans here, flawed⟩ with ⟨first, fails⟩
      rcases content with ⟨value, succeeds⟩
      cases succeeds.symm.trans (toValue_eq_error_iff.2 fails)

end Node

end Readiness.Yaml
