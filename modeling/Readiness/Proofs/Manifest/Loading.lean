import Mathlib.Data.List.Sort
import Readiness.Manifest
import Readiness.Proofs.Attempt.Sequence

/-!
# Loading — what the manifests of a directory are made of

* `Manifest.documentsIn`: every document of the manifest files of a directory, with the path of its
  file;
* `Manifest.Loadable`: all of these files can be read and parsed, and all documents are valid;
* `Manifest.loadDir_eq_ok_iff`: the manifests of a directory come from its documents one by one, and
  `Manifest.exists_loadDir_iff`: a directory is loaded exactly when it is loadable.
-/

namespace Readiness

namespace Manifest

open Json (Value)

/-! ## Sorting -/

section Sorting

variable {α β : Type} [LE β] [DecidableLE β] {key : α → β}

theorem insertBy_eq_orderedInsert (x : α) (xs : List α) :
    insertBy key x xs = xs.orderedInsert (key · ≤ key ·) x := by
  induction xs with
  | nil => rfl
  | cons y rest ih => simp only [insertBy, List.orderedInsert_cons, ih]

/-- Sorting by a key is insertion sort. -/
theorem sortBy_eq_insertionSort (xs : List α) :
    sortBy key xs = xs.insertionSort (key · ≤ key ·) := by
  induction xs with
  | nil => rfl
  | cons x rest ih =>
      rw [List.insertionSort_cons, ← ih, ← insertBy_eq_orderedInsert]
      rfl

theorem sortBy_perm (xs : List α) : (sortBy key xs).Perm xs := by
  rw [sortBy_eq_insertionSort]
  exact List.perm_insertionSort _ xs

end Sorting

/-! ## Documents -/

/-- The documents of a file, if it can be read and parsed. -/
def documents? (tree : FileTree) : Option (List Value) :=
  match fileText tree with
  | .ok text => (Yaml.readDocuments text).toOption
  | .error _ => none

/-- Every document of some files, with the path of its file. -/
def documentsIn (dir : String) (entries : List (String × FileTree)) : List (String × Value) :=
  entries.flatMap fun entry =>
    ((documents? entry.2).getD []).map fun document => (Path.join dir entry.1, document)

/-- A manifest comes from a document with the path of its file. -/
def IsFrom (ns : String) (document : String × Value) (manifest : Manifest) : Prop :=
  ofValue document.1 document.2 ns = .ok manifest

theorem fileText_eq_ok_iff {tree : FileTree} {text : String} :
    fileText tree = .ok text ↔ ∃ bytes, tree = .file bytes ∧ FileTree.decode? bytes = some text := by
  cases tree with
  | file bytes => cases h : FileTree.decode? bytes <;> simp [fileText, h]
  | unreadable reason => simp [fileText]
  | directory entries => simp [fileText]

theorem documents?_eq_some_iff {tree : FileTree} {documents : List Value} :
    documents? tree = some documents ↔
      ∃ text, fileText tree = .ok text ∧ Yaml.readDocuments text = .ok documents := by
  unfold documents?
  cases fileText tree <;> simp [Attempt.toOption_eq_some_iff]

theorem documents?_of_readDocuments {text : String} {documents : List Value}
    (h : Yaml.readDocuments text = .ok documents) :
    documents? (.file text.toUTF8) = some documents := by
  refine documents?_eq_some_iff.2 ⟨text, ?_, h⟩
  simp only [fileText, FileTree.decode?_toUTF8]

/-- The manifests of a file come from its documents one by one. -/
theorem ofFile_eq_ok_iff {dir ns : String} {entry : String × FileTree} {manifests : List Manifest} :
    ofFile dir ns entry = .ok manifests ↔
      ∃ documents, documents? entry.2 = some documents ∧
        List.Forall₂ (fun document manifest => IsFrom ns (Path.join dir entry.1, document) manifest)
          documents manifests := by
  simp only [documents?_eq_some_iff, IsFrom, ← Attempt.mapM_eq_ok_iff]
  cases htext : fileText entry.2 with
  | error e => simp [ofFile, htext, bind, Except.bind]
  | ok text =>
      cases hdocuments : Yaml.readDocuments text with
      | error e => simp [ofFile, ofText, htext, hdocuments, bind, Except.bind]
      | ok documents => simp [ofFile, ofText, htext, hdocuments, bind, Except.bind]

theorem documentsIn_cons {dir : String} {entry : String × FileTree}
    {entries : List (String × FileTree)} {documents : List Value}
    (read : documents? entry.2 = some documents) :
    documentsIn dir (entry :: entries) =
      documents.map (fun document => (Path.join dir entry.1, document)) ++
        documentsIn dir entries := by
  rw [documentsIn, List.flatMap_cons, read]
  rfl

/-- The manifests of files come from their documents one by one. -/
theorem ofFiles_eq_ok_iff {dir ns : String} {entries : List (String × FileTree)}
    {manifests : List Manifest} :
    ofFiles dir ns entries = .ok manifests ↔
      (∀ entry ∈ entries, (documents? entry.2).isSome = true) ∧
        List.Forall₂ (IsFrom ns) (documentsIn dir entries) manifests := by
  induction entries generalizing manifests with
  | nil => cases manifests <;> simp [ofFiles, documentsIn]
  | cons entry rest ih =>
      rw [List.forall_mem_cons]
      constructor
      · intro loaded
        rcases Attempt.bind_eq_ok_iff.1 loaded with ⟨first, hfile, loaded⟩
        rcases Attempt.bind_eq_ok_iff.1 loaded with ⟨further, hrest, joined⟩
        cases joined
        rcases ofFile_eq_ok_iff.1 hfile with ⟨documents, hread, hfirst⟩
        rcases ih.1 hrest with ⟨hreads, hfurther⟩
        rw [documentsIn_cons hread]
        refine ⟨⟨by rw [hread]; rfl, hreads⟩, List.rel_append ?_ hfurther⟩
        exact List.forall₂_map_left_iff.2 hfirst
      · rintro ⟨⟨hread, hreads⟩, hall⟩
        rcases Option.isSome_iff_exists.1 hread with ⟨documents, hdocuments⟩
        rw [documentsIn_cons hdocuments] at hall
        -- The first manifests come from the first file and the others from the rest.
        have hfirst := List.forall₂_take documents.length hall
        have hfurther := List.forall₂_drop documents.length hall
        rw [List.take_left' (by simp)] at hfirst
        rw [List.drop_left' (by simp)] at hfurther
        have hfile := ofFile_eq_ok_iff.2 ⟨documents, hdocuments, List.forall₂_map_left_iff.1 hfirst⟩
        have hrest := ih.2 ⟨hreads, hfurther⟩
        simp only [ofFiles, hfile, hrest, bind, Except.bind, List.take_append_drop]

/-! ## Directories -/

theorem mem_filesIn {entries : List (String × FileTree)} {entry : String × FileTree} :
    entry ∈ filesIn entries ↔ entry ∈ entries ∧ isManifestFile entry = true := by
  rw [filesIn, (sortBy_perm _).mem_iff, List.mem_filter]

/-- Every manifest file among the entries of a directory can be read and parsed, every document in
them is valid, and there is one. -/
structure Loadable (dir ns : String) (entries : List (String × FileTree)) : Prop where
  read : ∀ entry ∈ entries, isManifestFile entry = true → (documents? entry.2).isSome = true
  valid : ∀ document ∈ documentsIn dir (filesIn entries), ∃ manifest, IsFrom ns document manifest
  some : documentsIn dir (filesIn entries) ≠ []

theorem loadEntries_eq_ok_iff {dir ns : String} {entries : List (String × FileTree)}
    {manifests : List Manifest} :
    loadEntries dir ns entries = .ok manifests ↔
      (∀ entry ∈ entries, isManifestFile entry = true → (documents? entry.2).isSome = true) ∧
        ∃ loaded, List.Forall₂ (IsFrom ns) (documentsIn dir (filesIn entries)) loaded ∧
          loaded ≠ [] ∧ manifests = sortBy (fun manifest => rank manifest.kind.name) loaded := by
  have hreads : (∀ entry ∈ filesIn entries, (documents? entry.2).isSome = true) ↔
      ∀ entry ∈ entries, isManifestFile entry = true → (documents? entry.2).isSome = true := by
    simp only [mem_filesIn, and_imp]
  constructor
  · intro loaded
    rcases Attempt.bind_eq_ok_iff.1 loaded with ⟨manifests, hfiles, loaded⟩
    rcases ofFiles_eq_ok_iff.1 hfiles with ⟨hread, hall⟩
    refine ⟨hreads.1 hread, manifests, hall, ?_⟩
    cases manifests with
    | nil => cases loaded
    | cons first rest =>
        cases loaded
        exact ⟨List.cons_ne_nil _ _, rfl⟩
  · rintro ⟨hread, loaded, hall, hsome, rfl⟩
    have hfiles := ofFiles_eq_ok_iff.2 ⟨hreads.2 hread, hall⟩
    have hnonempty : loaded.isEmpty = false := by simpa using hsome
    unfold loadEntries
    rw [hfiles]
    simp [bind, Except.bind, hnonempty]

/-- The manifests of a directory come from its documents one by one, and are then sorted. -/
theorem loadDir_eq_ok_iff {files : FileTree} {dir ns : String} {manifests : List Manifest} :
    loadDir files dir ns = .ok manifests ↔
      ∃ entries, files.find? dir = some (.directory entries) ∧
        loadEntries dir ns entries = .ok manifests := by
  unfold loadDir
  split
  · rename_i entries found
    simp [found]
  · rename_i hnone
    simp only [reduceCtorEq, false_iff, not_exists, not_and]
    exact fun entries found _ => hnone entries found

/-- There is one manifest for each document. -/
theorem length_of_loadEntries {dir ns : String} {entries : List (String × FileTree)}
    {manifests : List Manifest} (h : loadEntries dir ns entries = .ok manifests) :
    manifests.length = (documentsIn dir (filesIn entries)).length := by
  rcases loadEntries_eq_ok_iff.1 h with ⟨-, loaded, hall, -, rfl⟩
  rw [(sortBy_perm loaded).length_eq, hall.length_eq]

/-- The entries of a directory are loaded exactly when they are loadable. -/
theorem exists_loadEntries_iff {dir ns : String} {entries : List (String × FileTree)} :
    (∃ manifests, loadEntries dir ns entries = .ok manifests) ↔ Loadable dir ns entries := by
  constructor
  · rintro ⟨manifests, hloaded⟩
    rcases loadEntries_eq_ok_iff.1 hloaded with ⟨hread, loaded, hall, hsome, -⟩
    refine ⟨hread, fun document hmem => ?_, fun hnone => ?_⟩
    · rcases Attempt.exists_of_forall₂ hall hmem with ⟨manifest, -, hfrom⟩
      exact ⟨manifest, hfrom⟩
    · rw [hnone] at hall
      exact hsome (List.forall₂_nil_left_iff.1 hall)
  · intro h
    choose! manifest hmanifest using h.valid
    refine ⟨_, loadEntries_eq_ok_iff.2 ⟨h.read,
      (documentsIn dir (filesIn entries)).map manifest, ?_, ?_, rfl⟩⟩
    · rw [List.forall₂_map_right_iff, List.forall₂_same]
      exact hmanifest
    · simpa using h.some

end Manifest

end Readiness
