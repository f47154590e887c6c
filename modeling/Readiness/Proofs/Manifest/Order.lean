import Readiness.Proofs.Manifest.Faults
import Readiness.Proofs.Text.ByteOrder

/-!
# Order — the manifests of a directory and the places of their documents

* `Manifest.pairwise_sortBy`: sorting by a key keeps the order of elements that share it;
* `Manifest.Place`: the name of a file and the number of a document in it. `Manifest.Stands` says
  which document is there, and `Manifest.standing` lists all of them in order;
* `Manifest.Arranged`: one manifest for each document, by rank and then by place;
* `directory_is_arranged`: the manifests of a directory are arranged. They are there exactly when no
  file is at fault and there is a document, and do not depend on the order in which the system lists
  the directory.
-/

namespace Readiness

namespace Manifest

open Json (Value)

/-! ## Stable sorting -/

section Sorting

variable {α β γ : Type} [LinearOrder β] {key : α → β} {R : α → α → Prop} {x : α} {xs : List α}

/-- Elements stand in the order of a key, and those that share it in another order. -/
def Follows (key : α → β) (R : α → α → Prop) (x y : α) : Prop :=
  key x < key y ∨ key x = key y ∧ R x y

theorem Follows.key_le {y : α} (h : Follows key R x y) : key x ≤ key y :=
  h.elim le_of_lt fun same => same.1.le

variable [DecidableLE β]

theorem mem_insertBy {y : α} : y ∈ insertBy key x xs ↔ y = x ∨ y ∈ xs := by
  rw [insertBy_eq_orderedInsert, List.mem_orderedInsert]

/-- An element that was before all others takes its place in front of those with its key. -/
theorem pairwise_insertBy (sorted : xs.Pairwise (Follows key R)) (before : ∀ y ∈ xs, R x y) :
    (insertBy key x xs).Pairwise (Follows key R) := by
  induction xs with
  | nil => simp [insertBy]
  | cons y rest ih =>
      rcases List.pairwise_cons.1 sorted with ⟨hy, hrest⟩
      unfold insertBy
      split
      · next le =>
          refine List.pairwise_cons.2 ⟨fun z mem => ?_, sorted⟩
          have hle : key x ≤ key z := by
            rcases List.mem_cons.1 mem with rfl | later
            · exact le
            · exact le.trans (hy z later).key_le
          exact hle.lt_or_eq.imp id fun same => ⟨same, before z mem⟩
      · next notLe =>
          have before : ∀ z ∈ rest, R x z := fun z mem => before z (List.mem_cons_of_mem y mem)
          refine List.pairwise_cons.2 ⟨fun z mem => ?_, ih hrest before⟩
          rcases mem_insertBy.1 mem with rfl | later
          · exact .inl (not_le.1 notLe)
          · exact hy z later

/-- Sorting keeps the order of elements with one key. -/
theorem pairwise_sortBy (h : xs.Pairwise R) : (sortBy key xs).Pairwise (Follows key R) := by
  induction xs with
  | nil => exact List.Pairwise.nil
  | cons x rest ih =>
      rcases List.pairwise_cons.1 h with ⟨before, hrest⟩
      refine pairwise_insertBy (ih hrest) fun y mem => ?_
      exact before y ((sortBy_perm rest).mem_iff.1 mem)

theorem map_insertBy {key : γ → β} (f : α → γ) :
    (insertBy (fun a => key (f a)) x xs).map f = insertBy key (f x) (xs.map f) := by
  induction xs with
  | nil => rfl
  | cons y rest ih =>
      simp only [insertBy, List.map_cons]
      split
      · rfl
      · rw [List.map_cons, ih]

theorem map_sortBy (key : γ → β) (f : α → γ) (xs : List α) :
    (sortBy (fun a => key (f a)) xs).map f = sortBy key (xs.map f) := by
  induction xs with
  | nil => rfl
  | cons x rest ih =>
      calc
        _ = insertBy key (f x) ((sortBy (fun a => key (f a)) rest).map f) := map_insertBy f
        _ = sortBy key ((x :: rest).map f) := by rw [ih]; rfl

end Sorting

/-! ## Files in the order of their names -/

variable {dir ns : String} {entries entries' : List (String × FileTree)}

/-- The names of the files stand in strictly ascending order. -/
theorem pairwise_filesIn (distinct : (entries.map (·.1)).Nodup) :
    (filesIn entries).Pairwise fun earlier later => earlier.1 < later.1 := by
  have apart : (entries.filter isManifestFile).Pairwise fun earlier later =>
      earlier.1 ≠ later.1 := (List.pairwise_map.1 distinct).filter _
  refine (pairwise_sortBy apart).imp ?_
  rintro earlier later (smaller | ⟨same, different⟩)
  · exact smaller
  · exact absurd same different

/-- The files do not depend on the order of the entries. -/
theorem filesIn_eq_of_perm (distinct : (entries.map (·.1)).Nodup) (perm : entries.Perm entries') :
    filesIn entries' = filesIn entries := by
  have distinct' : (entries'.map (·.1)).Nodup := (perm.map _).nodup_iff.1 distinct
  have antisymm : Std.Antisymm fun earlier later : String × FileTree => earlier.1 < later.1 :=
    ⟨fun _ _ hlt hgt => absurd hlt hgt.not_gt⟩
  have irrefl : Std.Irrefl fun earlier later : String × FileTree => earlier.1 < later.1 :=
    ⟨fun entry => lt_irrefl entry.1⟩
  apply (pairwise_filesIn distinct').eq_of_mem_iff (pairwise_filesIn distinct)
  intro entry
  rw [mem_filesIn, mem_filesIn, perm.mem_iff]

/-! ## Places of documents -/

/-- Where a document is found in a directory. -/
structure Place where
  file : String
  -- How many documents of the file are in front of it, those that are null included.
  number : Nat
deriving DecidableEq, Repr

/-- Files come in the order of the bytes of their names, and the documents of one file as they stand
there. -/
def Place.Before (place later : Place) : Prop :=
  Text.bytes place.file < Text.bytes later.file ∨
    place.file = later.file ∧ place.number < later.number

theorem Place.Before.ne {place later : Place} (h : place.Before later) : place ≠ later := by
  rintro rfl
  rcases h with smaller | ⟨-, smaller⟩
  · exact lt_irrefl _ (Text.lt_iff_bytes_lt.2 smaller)
  · exact lt_irrefl _ smaller

/-- This document is found at this place of a directory. -/
def Stands (entries : List (String × FileTree)) (place : Place) (document : Value) : Prop :=
  ∃ bytes text, (place.file, .file bytes) ∈ entries ∧ IsManifestName place.file ∧
    FileTree.decode? bytes = some text ∧ Yaml.Holds text place.number document

/-- The documents of a file with their places. -/
def standingIn (entry : String × FileTree) : List (Place × Value) :=
  match fileText entry.2 with
  | .ok text => (Yaml.placed text).map fun (number, document) => (⟨entry.1, number⟩, document)
  | .error _ => []

/-- The documents of a directory with their places. -/
def standing (entries : List (String × FileTree)) : List (Place × Value) :=
  (filesIn entries).flatMap standingIn

variable {entry : String × FileTree} {place : Place} {document : Value}

theorem mem_standingIn_iff : (place, document) ∈ standingIn entry ↔
    ∃ text, fileText entry.2 = .ok text ∧ place.file = entry.1 ∧
      Yaml.Holds text place.number document := by
  obtain ⟨file, number⟩ := place
  cases htext : fileText entry.2 with
  | error error => simp [standingIn, htext]
  | ok text => simp [standingIn, htext, Yaml.mem_placed_iff, eq_comm, and_comm]

theorem mem_standing_iff : (place, document) ∈ standing entries ↔ Stands entries place document := by
  simp only [standing, List.mem_flatMap, mem_filesIn, mem_standingIn_iff]
  constructor
  · rintro ⟨⟨name, tree⟩, ⟨mem, file⟩, text, htext, rfl, holds⟩
    rcases fileText_eq_ok_iff.1 htext with ⟨bytes, rfl, decoded⟩
    exact ⟨bytes, text, mem, (isManifestFile_iff.1 file).1, decoded, holds⟩
  · rintro ⟨bytes, text, mem, named, decoded, holds⟩
    exact ⟨(place.file, .file bytes), ⟨mem, isManifestFile_iff.2 ⟨named, nofun⟩⟩, text,
      fileText_eq_ok_iff.2 ⟨bytes, rfl, decoded⟩, rfl, holds⟩

theorem pairwise_standingIn (entry : String × FileTree) :
    (standingIn entry).Pairwise fun earlier later => earlier.1.Before later.1 := by
  unfold standingIn
  split
  · next text htext =>
      rw [List.pairwise_map]
      exact (Yaml.pairwise_placed text).imp fun before => .inr ⟨rfl, before⟩
  · exact List.Pairwise.nil

theorem pairwise_standing (distinct : (entries.map (·.1)).Nodup) :
    (standing entries).Pairwise fun earlier later => earlier.1.Before later.1 := by
  refine List.pairwise_flatMap.2 ⟨fun entry _ => pairwise_standingIn entry, ?_⟩
  refine (pairwise_filesIn distinct).imp ?_
  rintro file file' before ⟨place, document⟩ mem ⟨place', document'⟩ mem'
  rcases mem_standingIn_iff.1 mem with ⟨-, -, here, -⟩
  rcases mem_standingIn_iff.1 mem' with ⟨-, -, here', -⟩
  left
  rw [here, here']
  exact Text.lt_iff_bytes_lt.1 before

/-- What is read of files are the documents that stand in them. -/
theorem map_standing (dir : String)
    (read : ∀ entry ∈ entries, isManifestFile entry = true → (documents? entry.2).isSome = true) :
    (standing entries).map (fun found => (Path.join dir found.1.file, found.2)) =
      documentsIn dir (filesIn entries) := by
  rw [standing, documentsIn, List.map_flatMap]
  refine List.flatMap_congr fun entry mem => ?_
  rcases mem_filesIn.1 mem with ⟨mem, file⟩
  rcases Option.isSome_iff_exists.1 (read entry mem file) with ⟨documents, hdocuments⟩
  rcases documents?_eq_some_iff.1 hdocuments with ⟨text, htext, parsed⟩
  rw [hdocuments, Option.getD_some, ← Yaml.map_snd_placed parsed]
  simp [standingIn, htext, Function.comp_def]

/-! ## Manifests in order -/

/-- One manifest for each document of a directory, by rank and then by place. -/
structure Arranged (dir ns : String) (entries : List (String × FileTree))
    (documents : List (Place × Value)) (manifests : List Manifest) : Prop where
  each : List.Forall₂ (fun found manifest =>
    ofValue (Path.join dir found.1.file) found.2 ns = .ok manifest) documents manifests
  all : ∀ place document, (place, document) ∈ documents ↔ Stands entries place document
  once : (documents.map (·.1)).Nodup
  ordered : (documents.zip manifests).Pairwise (Follows (fun found => rank found.2.kind.name)
    fun earlier later => earlier.1.1.Before later.1.1)

theorem arranged_of_loadEntries {manifests : List Manifest} (distinct : (entries.map (·.1)).Nodup)
    (h : loadEntries dir ns entries = .ok manifests) :
    ∃ documents, Arranged dir ns entries documents manifests := by
  rcases loadEntries_eq_ok_iff.1 h with ⟨read, loaded, hall, -, rfl⟩
  rw [← map_standing dir read, List.forall₂_map_left_iff] at hall
  -- Each document goes with its manifest while these are sorted.
  let pairs := (standing entries).zip loaded
  let sorted := sortBy (fun found => rank found.2.kind.name) pairs
  have perm : sorted.Perm pairs := sortBy_perm pairs
  have hfst : pairs.map (·.1) = standing entries := List.map_fst_zip hall.length_eq.le
  have hsnd : pairs.map (·.2) = loaded := List.map_snd_zip hall.length_eq.ge
  have documents : (sorted.map (·.1)).Perm (standing entries) := hfst ▸ perm.map _
  have manifests : sorted.map (·.2) = sortBy (fun manifest => rank manifest.kind.name) loaded := by
    rw [map_sortBy (fun manifest : Manifest => rank manifest.kind.name), hsnd]
  have before : (standing entries).Pairwise fun earlier later => earlier.1.Before later.1 :=
    pairwise_standing distinct
  refine ⟨sorted.map (·.1), ?_, ?_, ?_, ?_⟩
  · rw [← manifests, List.forall₂_map_left_iff, List.forall₂_map_right_iff, List.forall₂_same]
    intro found mem
    exact (List.forall₂_iff_zip.1 hall).2 (perm.mem_iff.1 mem)
  · intro place document
    rw [documents.mem_iff, mem_standing_iff]
  · rw [(documents.map _).nodup_iff, List.Nodup, List.pairwise_map]
    exact before.imp Place.Before.ne
  · rw [← manifests, ← List.unzip_fst, ← List.unzip_snd, List.zip_unzip]
    rw [← hfst, List.pairwise_map] at before
    exact pairwise_sortBy before

/-- No file of a directory is at fault, and there is a document. -/
structure Sound (dir ns : String) (entries : List (String × FileTree)) : Prop where
  sound : ∀ entry ∈ entries, IsManifestName entry.1 → ∀ error, ¬ Fault dir ns entry error
  some : ∃ place document, Stands entries place document

theorem Sound.loadable (h : Sound dir ns entries) : Loadable dir ns entries := by
  have loaded : ∀ entry ∈ filesIn entries, ∃ manifests, ofFile dir ns entry = .ok manifests := by
    rintro ⟨name, tree⟩ mem
    rcases mem_filesIn.1 mem with ⟨mem, file⟩
    exact (exists_ofFile_iff file).2 (h.sound (name, tree) mem (isManifestFile_iff.1 file).1)
  rcases exists_ofFiles_iff.2 loaded with ⟨manifests, hfiles⟩
  rcases ofFiles_eq_ok_iff.1 hfiles with ⟨reads, hall⟩
  have read : ∀ entry ∈ entries, isManifestFile entry = true →
      (documents? entry.2).isSome = true :=
    fun entry mem file => reads entry (mem_filesIn.2 ⟨mem, file⟩)
  refine ⟨read, fun document mem => ?_, fun bare => ?_⟩
  · rcases Attempt.exists_of_forall₂ hall mem with ⟨manifest, -, accepted⟩
    exact ⟨manifest, accepted⟩
  · rcases h.some with ⟨place, document, stands⟩
    rw [← map_standing dir read, List.map_eq_nil_iff] at bare
    exact absurd (bare ▸ mem_standing_iff.2 stands) List.not_mem_nil

theorem Loadable.sound (h : Loadable dir ns entries) : Sound dir ns entries := by
  rcases exists_loadEntries_iff.2 h with ⟨manifests, loaded⟩
  rcases loadEntries_eq_ok_iff.1 loaded with ⟨-, own, hall, -, -⟩
  have reads : ∀ entry ∈ filesIn entries, (documents? entry.2).isSome = true := by
    intro entry mem
    rcases mem_filesIn.1 mem with ⟨mem, file⟩
    exact h.read entry mem file
  have hfiles : ofFiles dir ns (filesIn entries) = .ok own := ofFiles_eq_ok_iff.2 ⟨reads, hall⟩
  constructor
  · rintro ⟨name, tree⟩ mem named error fault
    have file : isManifestFile (name, tree) = true := by
      refine isManifestFile_iff.2 ⟨named, ?_⟩
      rintro inner rfl
      cases fault
    rcases exists_ofFiles_iff.1 ⟨own, hfiles⟩ (name, tree) (mem_filesIn.2 ⟨mem, file⟩) with
      ⟨further, hfile⟩
    exact ofFile_ne_ok fault hfile
  · have nonempty := h.some
    rw [← map_standing dir h.read, ne_eq, List.map_eq_nil_iff] at nonempty
    rcases List.exists_mem_of_ne_nil _ nonempty with ⟨⟨place, document⟩, mem⟩
    exact ⟨place, document, mem_standing_iff.1 mem⟩

/-- The manifests of a directory are not empty and are arranged: there is one for each document that
is not null of each of its manifest files, in the order of ranks, of names and of places in a file.
They are there exactly when no file is at fault and there is a document, and do not depend on the
order of the entries. -/
theorem directory_is_arranged {files : FileTree} {dir : String}
    {entries : List (String × FileTree)} (found : files.find? dir = some (.directory entries))
    (distinct : (entries.map (·.1)).Nodup) (ns : String) :
    (∀ manifests, loadDir files dir ns = .ok manifests →
        manifests ≠ [] ∧ ∃ documents, Arranged dir ns entries documents manifests) ∧
      ((∃ manifests, loadDir files dir ns = .ok manifests) ↔ Sound dir ns entries) ∧
      ∀ files' entries', entries.Perm entries' →
        FileTree.find? files' dir = some (.directory entries') →
          loadDir files' dir ns = loadDir files dir ns := by
  have opened : loadDir files dir ns = loadEntries dir ns entries := by
    simp only [loadDir, found]
  refine ⟨fun manifests loaded => ?_, ?_, fun files' entries' perm found' => ?_⟩
  · exact ⟨ne_nil_of_loadDir loaded, arranged_of_loadEntries distinct (opened ▸ loaded)⟩
  · rw [opened, exists_loadEntries_iff]
    exact ⟨Loadable.sound, Sound.loadable⟩
  · rw [opened]
    simp only [loadDir, found', loadEntries, filesIn_eq_of_perm distinct perm]

/-- A directory that is listed the other way round has the same manifests. -/
theorem threeObjects_are_arranged :
    ∃ manifests documents,
      loadDir (.directory [("base", .directory threeObjects.reverse)]) "base" "test" =
          .ok manifests ∧
        manifests.length = 3 ∧ Arranged "base" "test" threeObjects documents manifests := by
  have distinct : (threeObjects.map (·.1)).Nodup := by
    simp only [threeObjects, List.map_cons, List.map_nil]
    decide
  rcases directory_is_arranged (find?_base threeObjects) distinct "test" with
    ⟨arranged, loaded, independent⟩
  rcases loaded.2 loadable_threeObjects.sound with ⟨manifests, hload⟩
  rcases arranged manifests hload with ⟨-, documents, harranged⟩
  refine ⟨manifests, documents, ?_, ?_, harranged⟩
  · rw [← hload]
    exact independent _ _ threeObjects.reverse_perm.symm (find?_base _)
  · rcases loadDir_eq_ok_iff.1 hload with ⟨entries, hfound, hentries⟩
    cases (find?_base threeObjects).symm.trans hfound
    rw [length_of_loadEntries hentries, documentsIn_threeObjects]
    rfl

end Manifest

end Readiness
