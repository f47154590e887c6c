import Mathlib.Data.List.Dedup
import Mathlib.Data.List.Sort
import Mathlib.Data.String.Basic
import Readiness.Dict

/-!
# Lookup — what a dictionary holds is what its lookups find

* `Dict.mem_keys_iff` and `Dict.find?_eq_none_iff`: a key is found exactly when it has an entry;
* `Dict.insert_insert`: of two insertions under one key the second one counts;
* `Dict.Ascending.mem_iff`: in ascending order the entries are exactly the answers of the lookups;
* `Dict.Ascending.eq_of_find?`: two dictionaries in ascending order that answer every lookup alike are
  equal;
* `Dict.mapped` keeps the keys and changes the values, and so do its lookups;
* `Dict.find?_ofList_of_last` and `Dict.length_ofList`: of entries that are inserted one after the
  other the last one of each key stays.
-/

namespace Readiness

namespace Dict

universe u v

variable {α : Type u} {β : Type v} {key : String} {value : α} {dict other : Dict α}

theorem mem_of_find? (h : find? key dict = some value) : (key, value) ∈ dict := by
  induction dict with
  | nil => cases h
  | cons entry rest ih =>
      obtain ⟨k, v⟩ := entry
      by_cases same : k = key
      · have found : v = value := by simpa [find?, same] using h
        simp [same, found]
      · have later : find? key rest = some value := by simpa [find?, same] using h
        exact List.mem_cons_of_mem _ (ih later)

theorem mem_keys_iff : key ∈ keys dict ↔ ∃ value, find? key dict = some value := by
  induction dict with
  | nil => simp [keys]
  | cons entry rest ih =>
      obtain ⟨k, v⟩ := entry
      by_cases same : k = key
      · simp [keys, find?, same]
      · simpa [keys, find?, same, Ne.symm same] using ih

theorem find?_eq_none_iff : find? key dict = none ↔ key ∉ keys dict := by
  simp [mem_keys_iff, Option.eq_none_iff_forall_ne_some]

theorem mem_keys_insert_iff {new : String} :
    key ∈ keys (insert new value dict) ↔ key = new ∨ key ∈ keys dict := by
  by_cases same : key = new
  · simp [mem_keys_iff, same, find?_insert_self]
  · simp [mem_keys_iff, same, find?_insert_of_ne same]

/-- Of two insertions under one key the second one counts. -/
theorem insert_insert (first : α) : insert key value (insert key first dict) =
    insert key value dict := by
  induction dict with
  | nil => simp [insert]
  | cons entry rest ih =>
      obtain ⟨k, v⟩ := entry
      by_cases same : k = key
      · simp [insert, same]
      · by_cases before : key < k
        · simp [insert, same, before]
        · simp [insert, same, before, ih]

namespace Ascending

theorem find?_of_mem (h : Ascending dict) (mem : (key, value) ∈ dict) :
    find? key dict = some value := by
  induction dict with
  | nil => cases mem
  | cons entry rest ih =>
      obtain ⟨k, v⟩ := entry
      have ⟨smallest, later⟩ : (∀ other ∈ keys rest, k < other) ∧ Ascending rest := by
        simpa [Ascending, keys] using h
      cases List.mem_cons.1 mem with
      | inl same =>
          cases same
          simp [find?]
      | inr old =>
          have greater : k < key := smallest key (List.mem_map_of_mem old)
          simpa [find?, greater.ne] using ih later old

/-- In ascending order the entries are exactly what the lookups find. -/
theorem mem_iff (h : Ascending dict) : (key, value) ∈ dict ↔ find? key dict = some value :=
  ⟨h.find?_of_mem, mem_of_find?⟩

/-- A dictionary in ascending order is determined by its lookups. -/
theorem eq_of_find? (h : Ascending dict) (hother : Ascending other)
    (same : ∀ key, find? key dict = find? key other) : dict = other := by
  -- Keys alone order the entries, and a list in strict order is determined by its members.
  have before : Std.Antisymm fun entry entry' : String × α => entry.1 < entry'.1 :=
    ⟨fun _ _ hlt hgt => absurd hlt hgt.not_gt⟩
  have irrefl : Std.Irrefl fun entry entry' : String × α => entry.1 < entry'.1 :=
    ⟨fun entry => lt_irrefl entry.1⟩
  have pairwise : dict.Pairwise fun entry entry' => entry.1 < entry'.1 := List.pairwise_map.1 h
  have pairwise' : other.Pairwise fun entry entry' => entry.1 < entry'.1 :=
    List.pairwise_map.1 hother
  apply pairwise.eq_of_mem_iff pairwise'
  rintro ⟨key, value⟩
  calc
    (key, value) ∈ dict
        ↔ find? key dict = some value := h.mem_iff
    _ ↔ find? key other = some value := by simp [same key]
    _ ↔ (key, value) ∈ other := hother.mem_iff.symm

end Ascending

/-! ## Changed values -/

/-- The same keys with changed values. -/
def mapped (f : α → β) (dict : Dict α) : Dict β := dict.map fun entry => (entry.1, f entry.2)

theorem find?_mapped (f : α → β) : find? key (mapped f dict) = (find? key dict).map f := by
  induction dict with
  | nil => rfl
  | cons entry rest ih =>
      obtain ⟨k, v⟩ := entry
      by_cases same : k = key
      · simp [mapped, find?, same]
      · simpa [mapped, find?, same] using ih

theorem Ascending.mapped (h : Ascending dict) (f : α → β) : Ascending (mapped f dict) := by
  simpa [Ascending, keys, Dict.mapped, Function.comp_def] using h

/-! ## Entries one after the other -/

/-- Adds entries to a dictionary one after the other. -/
def insertAll (entries : List (String × α)) (dict : Dict α) : Dict α :=
  entries.foldl (fun dict entry => insert entry.1 entry.2 dict) dict

theorem ofList_eq_insertAll (entries : List (String × α)) : ofList entries = insertAll entries [] :=
  rfl

theorem insertAll_cons (entry : String × α) (entries : List (String × α)) (dict : Dict α) :
    insertAll (entry :: entries) dict = insertAll entries (insert entry.1 entry.2 dict) := rfl

variable {entries before behind : List (String × α)}

theorem insertAll_append (dict : Dict α) : insertAll (before ++ behind) dict =
    insertAll behind (insertAll before dict) := List.foldl_append

theorem mem_keys_insertAll_iff :
    key ∈ keys (insertAll entries dict) ↔ key ∈ keys entries ∨ key ∈ keys dict := by
  induction entries generalizing dict with
  | nil => simp [insertAll, keys]
  | cons entry rest ih =>
      have first : keys (entry :: rest) = entry.1 :: keys rest := rfl
      rw [insertAll_cons, ih, mem_keys_insert_iff, first, List.mem_cons, or_left_comm, or_assoc]

theorem Ascending.insertAll (h : Ascending dict) : Ascending (insertAll entries dict) := by
  induction entries generalizing dict with
  | nil => exact h
  | cons entry rest ih => exact ih (ascending_insert entry.1 entry.2 h)

theorem find?_insertAll_of_notMem (h : key ∉ keys entries) :
    find? key (insertAll entries dict) = find? key dict := by
  induction entries generalizing dict with
  | nil => rfl
  | cons entry rest ih =>
      have ⟨first, later⟩ : key ≠ entry.1 ∧ key ∉ keys rest := by
        simpa [keys] using h
      rw [insertAll_cons, ih later, find?_insert_of_ne first]

/-- The last entry of a key is the one that is found. -/
theorem find?_ofList_of_last (h : key ∉ keys behind) :
    find? key (ofList (before ++ (key, value) :: behind)) = some value := by
  rw [ofList_eq_insertAll, insertAll_append, insertAll_cons, find?_insertAll_of_notMem h,
    find?_insert_self]

theorem mem_keys_ofList_iff : key ∈ keys (ofList entries) ↔ key ∈ keys entries := by
  rw [ofList_eq_insertAll, mem_keys_insertAll_iff]
  simp [keys]

theorem ascending_ofList (entries : List (String × α)) : Ascending (ofList entries) :=
  Ascending.insertAll List.Pairwise.nil

/-- There are as many entries as different keys. -/
theorem length_ofList (entries : List (String × α)) :
    (ofList entries).length = (keys entries).dedup.length := by
  have nodup : (keys (ofList entries)).Nodup := (ascending_ofList entries).imp fun h => h.ne
  have perm : (keys (ofList entries)).Perm (keys entries).dedup := by
    rw [List.perm_ext_iff_of_nodup nodup (List.nodup_dedup _)]
    intro key
    rw [mem_keys_ofList_iff, List.mem_dedup]
  simpa [keys] using perm.length_eq

end Dict

end Readiness
