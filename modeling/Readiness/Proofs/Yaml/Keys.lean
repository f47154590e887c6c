import Readiness.Proofs.Yaml.Conversion
import Readiness.Proofs.Yaml.Loaded

/-!
# Keys — when entries of a mapping become one

* `Node.eq_iff_keyKind?_eq`: two keys of one text are the same key exactly when they are of one kind,
  and `Node.isWritten_of_keyText_eq`: of two different ones at least one is a text or a real;
* `Node.length_eq_iff` and `Node.length_lt_iff`: an object has fewer entries than its mapping exactly
  when keys of different kinds have one text;
* `Node.mappings_merge_equal_texts`: that, of every mapping in a tree with a content, and the last
  entry of such a text stays;
* `Node.quotedNumber_replaces_number`: the entry of a number is lost to that of the same number in
  quotes.
-/

namespace Readiness.Yaml

open Json (Value)

namespace Node

variable {key other root : Node} {name : String} {entries : List (Node × Node)}
  {pairs : List (String × Value)}

/-! ## Texts of keys -/

/-- The kinds of keys that have a text. -/
inductive KeyKind where
  | text
  | real
  | int
  | bool
deriving DecidableEq, Repr

def keyKind? : Node → Option KeyKind
  | str _ => some .text
  | real _ => some .real
  | int _ => some .int
  | bool _ => some .bool
  | _ => none

/-- Two keys of one text are the same key exactly when they are of one kind. -/
theorem eq_iff_keyKind?_eq (hkey : key.keyText = .ok name) (hother : other.keyText = .ok name) :
    key = other ↔ key.keyKind? = other.keyKind? := by
  constructor
  · intro same
    rw [same]
  · intro kind
    have texts : key.keyText = other.keyText := hkey.trans hother.symm
    cases key with
    | str s =>
        cases other with
        | str t => simpa [keyText] using texts
        | _ => cases kind
    | real s =>
        cases other with
        | real t => simpa [keyText] using texts
        | _ => cases kind
    | int i =>
        cases other with
        | int j => simpa [keyText, Int.toString_eq_repr, Int.repr_inj] using texts
        | _ => cases kind
    | bool b =>
        cases other with
        | bool c => cases b <;> cases c <;> simp [keyText] at texts ⊢
        | _ => cases kind
    | _ => cases hkey

/-- Whether a key is kept as it was written. -/
def isWritten : Node → Bool
  | str _ => true
  | real _ => true
  | _ => false

/-- No number is written like a truth value. -/
theorem keyText_int_ne_bool (i : Int) (b : Bool) : (int i).keyText ≠ (bool b).keyText := by
  intro same
  have number : i.repr.isInt = true := Int.isInt_repr i
  have word : i.repr = if b then "true" else "false" := Except.ok.inj same
  have letters : (if b then "true" else "false").isInt = false := by
    cases b <;> cbv
  rw [word, letters] at number
  cases number

/-- Of two different keys with one text at least one is a text or a real. -/
theorem isWritten_of_keyText_eq (hkey : key.keyText = .ok name) (hother : other.keyText = .ok name)
    (different : key ≠ other) : key.isWritten = true ∨ other.isWritten = true := by
  have kinds : key.keyKind? ≠ other.keyKind? := fun kind =>
    different ((eq_iff_keyKind?_eq hkey hother).2 kind)
  have texts : key.keyText = other.keyText := hkey.trans hother.symm
  cases key with
  | str s => exact .inl rfl
  | real s => exact .inl rfl
  | int i =>
      cases other with
      | str s => exact .inr rfl
      | real s => exact .inr rfl
      | int j => exact absurd rfl kinds
      | bool b => exact absurd texts (keyText_int_ne_bool i b)
      | _ => cases hother
  | bool b =>
      cases other with
      | str s => exact .inr rfl
      | real s => exact .inr rfl
      | int j => exact absurd texts.symm (keyText_int_ne_bool j b)
      | bool c => exact absurd rfl kinds
      | _ => cases hother
  | _ => cases hkey

/-! ## Numbers of entries -/

/-- No two different keys have one text. -/
def KeepsApart (entries : List (Node × Node)) : Prop :=
  ∀ entry ∈ entries, ∀ other ∈ entries, entry.1.keyText = other.1.keyText → entry.1 = other.1

theorem map_keyText_of_readsAs (each : List.Forall₂ ReadsAs entries pairs) :
    entries.map (·.1.keyText) = (Dict.keys pairs).map .ok := by
  induction each with
  | nil => rfl
  | cons reads _ ih =>
      rw [List.map_cons, ih, reads.1]
      rfl

/-- The keys that are read are pairwise different exactly when the keys that are written are kept
apart. -/
theorem nodup_keys_iff (each : List.Forall₂ ReadsAs entries pairs)
    (distinct : (entries.map (·.1)).Nodup) : (Dict.keys pairs).Nodup ↔ KeepsApart entries := by
  have texts : (Dict.keys pairs).Nodup ↔ ((entries.map (·.1)).map keyText).Nodup := by
    rw [List.map_map, ← List.nodup_map_iff (fun _ _ => Except.ok.inj), ← map_keyText_of_readsAs each]
    rfl
  rw [texts]
  constructor
  · intro nodup entry hentry other hother same
    exact List.inj_on_of_nodup_map nodup (List.mem_map_of_mem hentry) (List.mem_map_of_mem hother)
      same
  · intro apart
    refine distinct.map_on ?_
    intro key hkey other hother same
    rcases List.mem_map.1 hkey with ⟨entry, mem, rfl⟩
    rcases List.mem_map.1 hother with ⟨entry', mem', rfl⟩
    exact apart entry mem entry' mem' same

theorem length_le (each : List.Forall₂ ReadsAs entries pairs) :
    (Dict.ofList pairs).length ≤ entries.length := by
  rw [Dict.length_ofList, each.length_eq]
  simpa [Dict.keys] using (List.dedup_sublist (Dict.keys pairs)).length_le

theorem length_eq_iff (each : List.Forall₂ ReadsAs entries pairs)
    (distinct : (entries.map (·.1)).Nodup) :
    (Dict.ofList pairs).length = entries.length ↔ KeepsApart entries := by
  have count : entries.length = (Dict.keys pairs).length := by
    simpa [Dict.keys] using each.length_eq
  rw [Dict.length_ofList, count, (List.dedup_sublist _).length_eq, List.dedup_eq_self]
  exact nodup_keys_iff each distinct

/-- Two entries whose keys are of different kinds, one of them as it was written, and have one
text. -/
def Collides (entries : List (Node × Node)) : Prop :=
  ∃ entry ∈ entries, ∃ other ∈ entries, entry.1.keyText = other.1.keyText ∧
    entry.1.keyKind? ≠ other.1.keyKind? ∧ (entry.1.isWritten = true ∨ other.1.isWritten = true)

theorem not_keepsApart_iff (each : List.Forall₂ ReadsAs entries pairs) :
    ¬ KeepsApart entries ↔ Collides entries := by
  constructor
  · intro merged
    simp only [KeepsApart, not_forall] at merged
    rcases merged with ⟨entry, mem, other, mem', same, different⟩
    rcases Attempt.exists_of_forall₂ each mem with ⟨⟨name, content⟩, -, reads, -⟩
    have text : other.1.keyText = .ok name := same ▸ reads
    have kinds : entry.1.keyKind? ≠ other.1.keyKind? := fun kind =>
      different ((eq_iff_keyKind?_eq reads text).2 kind)
    exact ⟨entry, mem, other, mem', same, kinds, isWritten_of_keyText_eq reads text different⟩
  · rintro ⟨entry, mem, other, mem', same, kinds, -⟩ apart
    exact kinds (congrArg keyKind? (apart entry mem other mem' same))

/-- A mapping at any place of a tree with a content becomes an object. The mappings of a text have no
key twice, and of such a one the object has an entry for each of its entries exactly when no two
different keys have one text. Otherwise it has fewer, a text or a real has the text of a key of another
kind, and of all entries with one text the last one stays. -/
theorem mappings_merge_equal_texts {root : Node} {entries : List (Node × Node)}
    (here : root.HasPart (.value (map entries))) (converts : ∃ value, root.toValue = .ok value) :
    (∀ text nodes, readNodes? text = some nodes → root ∈ nodes → (entries.map (·.1)).Nodup) ∧
      ∃ dict, (map entries).toValue = .ok (.obj dict) ∧
        ((entries.map (·.1)).Nodup → dict.length ≤ entries.length ∧
          (dict.length = entries.length ↔ KeepsApart entries) ∧
          (dict.length < entries.length ↔ Collides entries)) ∧
        ∀ before key node behind name, entries = before ++ (key, node) :: behind →
          key.keyText = .ok name → (∀ later ∈ behind, later.1.keyText ≠ .ok name) →
          ∃ content, node.toValue = .ok content ∧ Dict.find? name dict = some content := by
  rcases here.exists_toValue converts with ⟨value, content⟩
  rcases toValue_map_eq_ok_iff.1 content with ⟨pairs, each, rfl⟩
  refine ⟨?_, Dict.ofList pairs, content, ?_, ?_⟩
  · intro text nodes read mem
    cases (loaded_of_readNodes? read mem).of_hasPart here with
    | map keys values distinct => exact distinct
  · intro distinct
    have all := length_eq_iff each distinct
    refine ⟨length_le each, all, ?_⟩
    rw [← not_keepsApart_iff each, ← all]
    exact lt_iff_le_and_ne.trans (and_iff_right (length_le each))
  · intro before key node behind name split text last
    exact exists_find?_of_last (split ▸ each) text last

/-- Within a list, a mapping with a number and a text as keys keeps both entries. -/
theorem listedMapping_keeps_both :
    ∃ dict, (map [(int 1, str "a"), (str "one", str "b")]).toValue = .ok (.obj dict) ∧
      dict.length = 2 := by
  have here : (seq [map [(int 1, str "a"), (str "one", str "b")]]).HasPart
      (.value (map [(int 1, str "a"), (str "one", str "b")])) :=
    .item (List.mem_singleton.2 rfl) (.root _)
  rcases mappings_merge_equal_texts here ⟨_, rfl⟩ with ⟨-, dict, content, counts, -⟩
  have apart : KeepsApart [(int 1, str "a"), (str "one", str "b")] := by
    have texts : Int.repr 1 ≠ "one" := by decide
    simp [KeepsApart, keyText, texts, texts.symm]
  exact ⟨dict, content, (counts (by decide)).2.1.2 apart⟩

/-- The entry of a number is lost when another one has the same number in quotes as its key, although
the keys are different. -/
theorem quotedNumber_replaces_number :
    ∃ text entries dict, readNodes? text = some [map entries] ∧ (entries.map (·.1)).Nodup ∧
      readDocuments text = .ok [.obj dict] ∧ dict.length ≠ entries.length ∧
      ∀ value ∈ dict.map (·.2), value ≠ .str "a" := by
  refine ⟨"1: a\n\"1\": b\n", [(int 1, str "a"), (str "1", str "b")], [("1", .str "b")], ?_, ?_, ?_,
    ?_, ?_⟩
  · cbv
  · decide
  · rw [readDocuments_of_nodes (by decide) (by cbv)]
    rfl
  · decide
  · simp

end Node

end Readiness.Yaml
