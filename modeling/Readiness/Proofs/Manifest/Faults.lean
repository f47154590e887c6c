import Mathlib.Data.List.TakeWhile
import Readiness.Proofs.Manifest.Applying
import Readiness.Proofs.Manifest.Retargeting
import Readiness.Proofs.Yaml.Documents

/-!
# Faults — why a directory has no manifests

* `Manifest.IsManifestName`: something stands in front of one of three endings;
* `Manifest.Fault`: what is wrong with a file, and the error that tells it. `fault_of_ofFile` and
  `ofFile_ne_ok` say that a file has manifests exactly when nothing is;
* `Manifest.Refusal`: why a directory is refused; the first file at fault in the order of names
  decides;
* `refusals_name_their_place`: the error of a refused directory names the directory or the file at
  fault and is not worth a retry, unless the first file at fault is not text.
-/

namespace Readiness

/-! ## File names -/

namespace Path

variable {name ending : String}

theorem extension?_append {stem : String} (nonempty : stem ≠ "") (single : '.' ∉ ending.toList) :
    extension? (stem ++ "." ++ ending) = some ending := by
  have before : ∀ c ∈ ending.toList.reverse, (c != '.') = true := by
    intro c mem
    have hne : c ≠ '.' := by
      rintro rfl
      exact single (List.mem_reverse.1 mem)
    simpa using hne
  cases hstem : stem.toList.reverse with
  | nil => exact absurd (by simpa using hstem) nonempty
  | cons last front =>
      simp [extension?, List.dropWhile_append_of_pos before, List.takeWhile_append_of_pos before,
        hstem]

/-- A name with an ending is what stands in front of its last point, the point and the ending. -/
theorem exists_of_extension? (h : extension? name = some ending) :
    '.' ∉ ending.toList ∧ ∃ stem, stem ≠ "" ∧ name = stem ++ "." ++ ending := by
  cases hdrop : name.toList.reverse.dropWhile (· != '.') with
  | nil => simp [extension?, hdrop] at h
  | cons point front =>
      cases front with
      | nil => simp [extension?, hdrop] at h
      | cons last front =>
          have hpoint : point = '.' := by
            simpa [hdrop] using List.head?_dropWhile_not (· != '.') name.toList.reverse
          have written : String.ofList (name.toList.reverse.takeWhile (· != '.')).reverse =
              ending := by
            simpa [extension?, hdrop] using h
          have hending : (name.toList.reverse.takeWhile (· != '.')).reverse = ending.toList := by
            simpa using congrArg String.toList written
          refine ⟨?_, String.ofList (last :: front).reverse, by simp, String.toList_injective ?_⟩
          · rw [← hending, List.mem_reverse]
            intro mem
            simpa using List.mem_takeWhile_imp mem
          · calc
              name.toList = (name.toList.reverse.takeWhile (· != '.') ++
                  name.toList.reverse.dropWhile (· != '.')).reverse := by simp
              _ = (last :: front).reverse ++ '.' :: ending.toList := by
                  simp [hdrop, hpoint, hending]
              _ = (String.ofList (last :: front).reverse ++ "." ++ ending).toList := by simp

end Path

namespace Manifest

open Json (Value)

/-- Something stands in front of one of the endings of manifest files. -/
def IsManifestName (name : String) : Prop :=
  ∃ stem ending, stem ≠ "" ∧ ending ∈ extensions ∧ name = stem ++ "." ++ ending

theorem any_extension?_iff {name : String} :
    (Path.extension? name).any extensions.contains = true ↔ IsManifestName name := by
  constructor
  · intro h
    rcases (Option.any_eq_true _ _).1 h with ⟨ending, hending, known⟩
    rcases Path.exists_of_extension? hending with ⟨-, stem, nonempty, written⟩
    exact ⟨stem, ending, nonempty, by simpa using known, written⟩
  · rintro ⟨stem, ending, nonempty, known, rfl⟩
    have single : '.' ∉ ending.toList := by
      simp only [extensions, List.mem_cons, List.not_mem_nil, or_false] at known
      rcases known with rfl | rfl | rfl <;> decide
    rw [Path.extension?_append nonempty single]
    simpa using known

theorem isManifestFile_iff {name : String} {tree : FileTree} :
    isManifestFile (name, tree) = true ↔
      IsManifestName name ∧ ∀ entries, tree ≠ .directory entries := by
  cases tree <;> simp [isManifestFile, any_extension?_iff]

/-! ## Files at fault -/

/-- What is told of bytes that are not text. -/
def undecoded : String := "stream did not contain valid UTF-8"

/-- What is wrong with a file, and the error that tells it. -/
inductive Fault (dir ns : String) : String × FileTree → Error → Prop
  /-- The system does not let it be read. -/
  | unreadable {name reason : String} : Fault dir ns (name, .unreadable reason) (.io reason)
  /-- Its bytes are not text. -/
  | notText {name : String} {bytes : ByteArray} (undecodable : FileTree.decode? bytes = none) :
      Fault dir ns (name, .file bytes) (.io undecoded)
  /-- Its text cannot be read as a whole. -/
  | spoiled {name text : String} {bytes : ByteArray} {error : Yaml.ContentError}
      (decoded : FileTree.decode? bytes = some text) (spoils : Yaml.Spoils text error) :
      Fault dir ns (name, .file bytes) (.manifest (Path.join dir name) error.message)
  /-- One of its documents lacks a required text. -/
  | incomplete {name text : String} {bytes : ByteArray} {number : Nat} {document : Value}
      {keys : List String} (decoded : FileTree.decode? bytes = some text)
      (holds : Yaml.Holds text number document) (missing : missing? document = some keys) :
      Fault dir ns (name, .file bytes)
        (.manifest (Path.join dir name) ("document missing " ++ Text.joined "." keys))

variable {σ : Type} {files : FileTree} {dir ns : String} {entry : String × FileTree}
  {entries : List (String × FileTree)} {error : Error} {manifests : List Manifest}

theorem fault_of_ofFile (file : isManifestFile entry = true)
    (h : ofFile dir ns entry = .error error) : Fault dir ns entry error := by
  obtain ⟨name, tree⟩ := entry
  rcases Attempt.bind_eq_error_iff.1 h with unread | ⟨text, htext, h⟩
  · cases tree with
    | directory inner => simp [isManifestFile] at file
    | unreadable reason =>
        cases unread
        exact .unreadable
    | file bytes =>
        cases decoded : FileTree.decode? bytes with
        | some text => simp [fileText, decoded] at unread
        | none =>
            have same : Error.io undecoded = error := by
              simpa [fileText, undecoded, decoded] using unread
            exact same ▸ .notText decoded
  · rcases fileText_eq_ok_iff.1 htext with ⟨bytes, rfl, decoded⟩
    cases read : Yaml.readDocuments text with
    | error spoiling =>
        have same : Error.manifest (Path.join dir name) spoiling.message = error := by
          simpa [ofText, read] using h
        exact same ▸ .spoiled decoded (Yaml.spoils_of_readDocuments read)
    | ok documents =>
        have stopped : documents.mapM (fun value => ofValue (Path.join dir name) value ns) =
            .error error := by
          simpa [ofText, read] using h
        rcases Attempt.exists_mem_of_mapM stopped with ⟨document, mem, fails⟩
        rcases exists_missing?_of_ofValue fails with ⟨keys, missing, rfl⟩
        rw [← Yaml.map_snd_placed read, List.mem_map] at mem
        rcases mem with ⟨⟨number, document⟩, mem, rfl⟩
        exact .incomplete decoded (Yaml.mem_placed_iff.1 mem) missing

/-- A file at fault has no manifests. -/
theorem ofFile_ne_ok (fault : Fault dir ns entry error) : ofFile dir ns entry ≠ .ok manifests := by
  intro loaded
  rcases ofFile_eq_ok_iff.1 loaded with ⟨documents, hdocuments, hall⟩
  rcases documents?_eq_some_iff.1 hdocuments with ⟨text, htext, read⟩
  cases fault with
  | unreadable => simp [fileText] at htext
  | notText undecodable => simp [fileText, undecodable] at htext
  | @spoiled name other bytes spoiling decoded spoils =>
      have same : other = text := by simpa [fileText, decoded] using htext
      exact Yaml.readDocuments_ne_ok spoils (same ▸ read)
  | @incomplete name other bytes number document keys decoded holds missing =>
      have same : other = text := by simpa [fileText, decoded] using htext
      have mem : document ∈ documents := by
        rw [← Yaml.map_snd_placed read]
        exact List.mem_map_of_mem (Yaml.mem_placed_iff.2 (same ▸ holds))
      rcases Attempt.exists_of_forall₂ hall mem with ⟨manifest, -, accepted⟩
      cases (ofValue_of_missing? missing).symm.trans accepted

/-- A file has manifests exactly when nothing is wrong with it. -/
theorem exists_ofFile_iff (file : isManifestFile entry = true) :
    (∃ manifests, ofFile dir ns entry = .ok manifests) ↔ ∀ error, ¬ Fault dir ns entry error := by
  constructor
  · rintro ⟨manifests, loaded⟩ error fault
    exact ofFile_ne_ok fault loaded
  · intro sound
    cases h : ofFile dir ns entry with
    | ok manifests => exact ⟨manifests, rfl⟩
    | error error => exact absurd (fault_of_ofFile file h) (sound error)

/-! ## Refused directories -/

theorem ofFiles_eq_mapM (entries : List (String × FileTree)) :
    ofFiles dir ns entries = (entries.mapM (ofFile dir ns)).map List.flatten := by
  induction entries with
  | nil => rfl
  | cons first rest ih =>
      rw [ofFiles, ih, List.mapM_cons]
      cases ofFile dir ns first with
      | error error => rfl
      | ok manifests => cases rest.mapM (ofFile dir ns) <;> rfl

/-- Loading files fails as the first one that has no manifests. -/
theorem ofFiles_eq_error_iff : ofFiles dir ns entries = .error error ↔
    ∃ front entry back, entries = front ++ entry :: back ∧
      (∀ earlier ∈ front, ∃ manifests, ofFile dir ns earlier = .ok manifests) ∧
      ofFile dir ns entry = .error error := by
  rw [← Attempt.mapM_eq_error_iff, ofFiles_eq_mapM]
  cases entries.mapM (ofFile dir ns) <;> simp [Except.map]

/-- Files have manifests exactly when each of them has. -/
theorem exists_ofFiles_iff : (∃ manifests, ofFiles dir ns entries = .ok manifests) ↔
    ∀ entry ∈ entries, ∃ manifests, ofFile dir ns entry = .ok manifests := by
  rw [← Attempt.exists_mapM_iff, ofFiles_eq_mapM]
  cases entries.mapM (ofFile dir ns) <;> simp [Except.map]

/-- The first file at fault in the order of names has this fault. -/
def StopsAt (dir ns : String) (entries : List (String × FileTree)) (entry : String × FileTree)
    (error : Error) : Prop :=
  Fault dir ns entry error ∧ ∃ front back, filesIn entries = front ++ entry :: back ∧
    ∀ earlier ∈ front, ∀ other, ¬ Fault dir ns earlier other

/-- Why a directory has no manifests. -/
inductive Refusal (files : FileTree) (dir ns : String) : Error → Prop
  /-- There is no such directory. -/
  | absent (absent : ∀ entries, files.find? dir ≠ some (.directory entries)) :
      Refusal files dir ns (.manifest dir "cannot read directory")
  /-- There is no document in it. -/
  | bare {entries : List (String × FileTree)}
      (found : files.find? dir = some (.directory entries))
      (bare : documentsIn dir (filesIn entries) = []) :
      Refusal files dir ns (.manifest dir "no manifests found")
  /-- A file in it is at fault. -/
  | fault {entries : List (String × FileTree)} {entry : String × FileTree} {error : Error}
      (found : files.find? dir = some (.directory entries))
      (stops : StopsAt dir ns entries entry error) : Refusal files dir ns error

theorem isManifestFile_of_split {listed : List (String × FileTree)}
    (split : filesIn entries = listed) (mem : entry ∈ listed) : isManifestFile entry = true := by
  subst split
  exact (mem_filesIn.1 mem).2

theorem stopsAt_of_ofFiles (h : ofFiles dir ns (filesIn entries) = .error error) :
    ∃ entry, StopsAt dir ns entries entry error := by
  rcases ofFiles_eq_error_iff.1 h with ⟨front, entry, back, split, loaded, stopped⟩
  have file := isManifestFile_of_split split (List.mem_append_right front List.mem_cons_self)
  refine ⟨entry, fault_of_ofFile file stopped, front, back, split, fun earlier mem => ?_⟩
  have file := isManifestFile_of_split split (List.mem_append_left _ mem)
  exact (exists_ofFile_iff file).1 (loaded earlier mem)

theorem refusal_of_loadDir (h : loadDir files dir ns = .error error) :
    Refusal files dir ns error := by
  unfold loadDir at h
  split at h
  · next entries found =>
      rcases Attempt.bind_eq_error_iff.1 h with stopped | ⟨manifests, hfiles, h⟩
      · rcases stopsAt_of_ofFiles stopped with ⟨entry, stops⟩
        exact .fault found stops
      · split at h
        · next empty =>
            cases h
            have hall := (ofFiles_eq_ok_iff.1 hfiles).2
            rw [List.isEmpty_iff.1 empty] at hall
            exact .bare found (List.forall₂_nil_right_iff.1 hall)
        · cases h
  · next absent =>
      cases h
      exact .absent absent

/-- Bytes that are not text stop a directory when no file before them is at fault. -/
theorem loadDir_of_stopsAt_notText {name : String} {bytes : ByteArray}
    (found : files.find? dir = some (.directory entries))
    (stops : StopsAt dir ns entries (name, .file bytes) error)
    (undecodable : FileTree.decode? bytes = none) :
    loadDir files dir ns = .error (.io undecoded) := by
  rcases stops with ⟨-, front, back, split, sound⟩
  have loaded : ∀ earlier ∈ front, ∃ manifests, ofFile dir ns earlier = .ok manifests := by
    intro earlier mem
    have file := isManifestFile_of_split split (List.mem_append_left _ mem)
    exact (exists_ofFile_iff file).2 (sound earlier mem)
  have stopped : ofFile dir ns (name, .file bytes) = .error (.io undecoded) := by
    simp [ofFile, fileText, undecodable, undecoded, bind, Except.bind]
  have hfiles : ofFiles dir ns (filesIn entries) = .error (.io undecoded) :=
    ofFiles_eq_error_iff.2 ⟨front, _, back, split, loaded, stopped⟩
  simp [loadDir, found, loadEntries, hfiles, bind, Except.bind]

/-! ## Refused deliveries -/

/-- Sending the manifests of a directory fails before anything is sent. -/
def FailsUnsent (applier : Applier σ) (files : FileTree) (dir ns : String) (error : Error) : Prop :=
  ∃ now s finished events last,
    applyDir applier.recorded files dir ns now (s, []) =
      some (.error error, finished, events, (last, []))

theorem ne_nil_of_loadDir (h : loadDir files dir ns = .ok manifests) : manifests ≠ [] := by
  rcases loadDir_eq_ok_iff.1 h with ⟨entries, -, hentries⟩
  rcases loadEntries_eq_ok_iff.1 hentries with ⟨-, loaded, -, nonempty, rfl⟩
  intro nothing
  exact nonempty (List.perm_nil.1 (nothing ▸ (sortBy_perm loaded).symm))

/-- The first manifest is sent. -/
theorem sent_ne_nil (applier : Applier σ) (now : Nat) (s : σ) (nonempty : manifests ≠ []) :
    (applyAll applier.recorded now 0 [] (s, []) manifests).sent ≠ [] := by
  rcases applier.sends_cases now s manifests with
    ⟨later, last, hsends⟩ | ⟨sent, manifest, rest, later, last, rfl, hsends, hfails⟩
  · rw [hsends.delivery.1]
    exact nonempty
  · rw [(hsends.delivery_of_not_succeeds hfails rest).1]
    simp

/-- What fails before anything is sent is loading. -/
theorem loadDir_of_failsUnsent {applier : Applier σ} (h : FailsUnsent applier files dir ns error) :
    loadDir files dir ns = .error error := by
  rcases h with ⟨now, s, finished, events, last, answer⟩
  have ⟨outcome, unsent⟩ :
      (deliverDir applier.recorded files dir ns now (s, [])).outcome = some (.error error) ∧
        (deliverDir applier.recorded files dir ns now (s, [])).sent = [] := by
    rcases Option.map_eq_some_iff.1 answer with ⟨result, outcome, told⟩
    simp only [Prod.mk.injEq] at told
    rcases told with ⟨same, -, -, state⟩
    exact ⟨same ▸ outcome, by simp [Delivery.sent, state]⟩
  cases loaded : loadDir files dir ns with
  | ok manifests =>
      rw [(deliverDir_of_loadDir loaded applier.recorded now (s, [])).1] at unsent
      exact absurd unsent (sent_ne_nil applier now s (ne_nil_of_loadDir loaded))
  | error other =>
      have same : other = error := by simpa [deliverDir, loaded] using outcome
      rw [same]

/-- The first file at fault is not text. -/
def StopsAtBytes (files : FileTree) (dir ns : String) : Prop :=
  ∃ entries name bytes error, files.find? dir = some (.directory entries) ∧
    FileTree.decode? bytes = none ∧ StopsAt dir ns entries (name, .file bytes) error

/-- Where the system lets all files of a directory be read, a directory that is refused before
anything is sent is refused with an error of its own kind, which is not worth a retry and names the
directory or the first file at fault. The exception is a directory whose first file at fault is not
text: its error names no file and counts as worth a retry. -/
theorem refusals_name_their_place {applier : Applier σ} {files : FileTree} {dir ns : String}
    {error : Error}
    (readable : ∀ entries name reason, files.find? dir = some (.directory entries) →
      (name, .unreadable reason) ∉ entries)
    (refused : loadDir files dir ns = .error error ∨ FailsUnsent applier files dir ns error) :
    (¬ StopsAtBytes files dir ns → error.isRetryable = false ∧
        ∃ place reason, error = .manifest place reason ∧
          (place = dir ∨ ∃ entries name tree, files.find? dir = some (.directory entries) ∧
            (name, tree) ∈ entries ∧ IsManifestName name ∧
            StopsAt dir ns entries (name, tree) error ∧ place = Path.join dir name)) ∧
      (StopsAtBytes files dir ns → error = .io undecoded ∧ error.isRetryable = true) := by
  have hload : loadDir files dir ns = .error error := refused.elim id loadDir_of_failsUnsent
  constructor
  · intro text
    cases refusal_of_loadDir hload with
    | absent => exact ⟨rfl, dir, _, rfl, .inl rfl⟩
    | bare => exact ⟨rfl, dir, _, rfl, .inl rfl⟩
    | @fault entries entry error found stops =>
        have mem : entry ∈ filesIn entries := by
          rcases stops.2 with ⟨front, back, split, -⟩
          simp [split]
        rcases mem_filesIn.1 mem with ⟨mem, file⟩
        obtain ⟨name, tree⟩ := entry
        have named := (isManifestFile_iff.1 file).1
        have fault := stops.1
        cases fault with
        | unreadable => exact absurd mem (readable entries _ _ found)
        | notText undecodable => exact absurd ⟨entries, _, _, _, found, undecodable, stops⟩ text
        | spoiled decoded spoils =>
            exact ⟨rfl, _, _, rfl, .inr ⟨entries, name, _, found, mem, named, stops, rfl⟩⟩
        | incomplete decoded holds missing =>
            exact ⟨rfl, _, _, rfl, .inr ⟨entries, name, _, found, mem, named, stops, rfl⟩⟩
  · rintro ⟨entries, name, bytes, other, found, undecodable, stops⟩
    rw [loadDir_of_stopsAt_notText found stops undecodable] at hload
    cases hload
    exact ⟨rfl, rfl⟩

/-- A file with an object that does not end, and one that is not text behind it. -/
def unendedFiles : List (String × FileTree) :=
  [("z.yaml", .file ⟨#[0xff]⟩), ("a.json", .file "\x7b".toUTF8)]

theorem find?_base (entries : List (String × FileTree)) :
    FileTree.find? (.directory [("base", .directory entries)]) "base" =
      some (.directory entries) := by
  cbv

theorem loadDir_unendedFiles :
    loadDir (.directory [("base", .directory unendedFiles)]) "base" "e2e" =
      .error (.manifest "base/a.json" "invalid JSON") := by
  have split : filesIn unendedFiles =
      [] ++ ("a.json", .file "\x7b".toUTF8) :: [("z.yaml", .file ⟨#[0xff]⟩)] := by
    unfold unendedFiles
    generalize "\x7b".toUTF8 = brace
    cbv
  have stopped : ofFile "base" "e2e" ("a.json", .file "\x7b".toUTF8) =
      .error (.manifest "base/a.json" "invalid JSON") := by
    simp only [ofFile, fileText, FileTree.decode?_toUTF8]
    rfl
  have hfiles : ofFiles "base" "e2e" (filesIn unendedFiles) =
      .error (.manifest "base/a.json" "invalid JSON") := by
    exact ofFiles_eq_error_iff.2 ⟨[], _, _, split, by simp, stopped⟩
  simp [loadDir, find?_base, loadEntries, hfiles, bind, Except.bind]

theorem unendedFiles_are_refused_by_name :
    ∃ entries name tree,
      FileTree.find? (.directory [("base", .directory unendedFiles)]) "base" =
        some (.directory entries) ∧ (name, tree) ∈ entries ∧ IsManifestName name ∧
      StopsAt "base" "e2e" entries (name, tree) (.manifest "base/a.json" "invalid JSON") := by
  have readable : ∀ entries name reason,
      FileTree.find? (.directory [("base", .directory unendedFiles)]) "base" =
        some (.directory entries) → (name, .unreadable reason) ∉ entries := by
    intro entries name reason found
    cases (find?_base unendedFiles).symm.trans found
    simp [unendedFiles]
  have refused : loadDir (.directory [("base", .directory unendedFiles)]) "base" "e2e" =
        .error (.manifest "base/a.json" "invalid JSON") ∨
      FailsUnsent (onceApplier (.io "refused")) (.directory [("base", .directory unendedFiles)])
        "base" "e2e" (.manifest "base/a.json" "invalid JSON") := .inl loadDir_unendedFiles
  rcases refusals_name_their_place readable refused with ⟨named, untold⟩
  have text : ¬ StopsAtBytes (.directory [("base", .directory unendedFiles)]) "base" "e2e" :=
    fun bytes => nomatch (untold bytes).1
  rcases (named text).2 with ⟨place, reason, same, somewhere⟩
  cases same
  rcases somewhere with hdir | ⟨entries, name, tree, found, mem, hname, stops, -⟩
  · exact absurd hdir (by decide)
  · exact ⟨entries, name, tree, found, mem, hname, stops⟩

/-- A byte that begins no character is told without its file, and as worth a retry. -/
theorem lone_byte_is_worth_a_retry :
    loadDir (.directory [("base", .directory [("z.yaml", .file ⟨#[0xff]⟩)])]) "base" "e2e" =
        .error (.io undecoded) ∧
      (Error.io undecoded).isRetryable = true ∧
      ∀ place reason, Error.io undecoded ≠ .manifest place reason := by
  have undecodable : FileTree.decode? ⟨#[0xff]⟩ = none := by decide
  have stops : StopsAt "base" "e2e" [("z.yaml", .file ⟨#[0xff]⟩)]
      ("z.yaml", .file ⟨#[0xff]⟩) (.io undecoded) :=
    ⟨.notText undecodable, [], [], rfl, by simp⟩
  exact ⟨loadDir_of_stopsAt_notText (find?_base _) stops undecodable, rfl,
    fun place reason => nofun⟩

end Manifest

end Readiness
