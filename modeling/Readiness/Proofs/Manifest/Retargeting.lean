import Readiness.Cluster.Request
import Readiness.Manifest
import Readiness.Proofs.Json.Position

/-!
# Retargeting — what pointing a document at a namespace does to it

* `Manifest.missing?`: the first of the required texts that a document does not have;
  `ofValue_of_texts` and `ofValue_of_missing?` say that a document is accepted exactly when it has all
  of them;
* `Manifest.setNamespace` changes what is below `metadata.namespace` and nothing away from it
  (`at?_setNamespace_of_away`), and of two namespaces the second one counts
  (`setNamespace_setNamespace`);
* `ofValue_changes_namespace_only`: a manifest is its document with the namespace in place, or the
  document itself for a kind that belongs to the whole cluster;
* `agrees_iff_namespaced_or_free`: the object of a manifest carries the namespace that it is sent to,
  unless it belongs to the whole cluster and came with a namespace of its own.
-/

namespace Readiness

namespace Manifest

open Json (Step Value)

variable {path ns : String} {value : Value} {manifest : Manifest} {keys : List String}
  {text apiVersion kind name : String}

/-! ## Required texts -/

/-- The texts that every document has, in the order in which they are asked for. -/
def requiredTexts : List (List String) := [["apiVersion"], ["kind"], ["metadata", "name"]]

/-- The document has a text at the end of a path of keys. -/
def HasText (value : Value) (keys : List String) : Prop :=
  ∃ text, value.lookup keys = some (.str text)

def lacksText (value : Value) (keys : List String) : Bool :=
  ((value.lookup keys).bind Value.asString?).isNone

/-- The first of the required texts that is missing. -/
def missing? (value : Value) : Option (List String) := requiredTexts.find? (lacksText value)

theorem lacksText_iff : lacksText value keys = true ↔ ¬ HasText value keys := by
  rw [lacksText, Option.isNone_iff_eq_none, Option.eq_none_iff_forall_ne_some]
  simp only [ne_eq, Value.bind_asString?_eq_some_iff, HasText, not_exists]

theorem missing?_eq_none_iff :
    missing? value = none ↔ ∀ keys ∈ requiredTexts, HasText value keys := by
  simp only [missing?, List.find?_eq_none, lacksText_iff, not_not]

theorem requireText_of_lookup (h : value.lookup keys = some (.str text)) :
    requireText path value keys = .ok text := by
  simp [requireText, h, Value.asString?]

theorem requireText_of_not_hasText (h : ¬ HasText value keys) :
    requireText path value keys =
      .error (.manifest path ("document missing " ++ Text.joined "." keys)) := by
  have nothing : (value.lookup keys).bind Value.asString? = none :=
    Option.isNone_iff_eq_none.1 (lacksText_iff.2 h)
  simp [requireText, nothing]

/-- The manifest of a document with these texts. -/
def pointed (path : String) (value : Value) (ns apiVersion kind name : String) : Manifest :=
  if isNamespaced kind then
    ⟨path, .ofName apiVersion kind, name, some ns, setNamespace ns value⟩
  else ⟨path, .ofName apiVersion kind, name, none, value⟩

theorem ofValue_of_texts (hversion : value.lookup ["apiVersion"] = some (.str apiVersion))
    (hkind : value.lookup ["kind"] = some (.str kind))
    (hname : value.lookup ["metadata", "name"] = some (.str name)) :
    ofValue path value ns = .ok (pointed path value ns apiVersion kind name) := by
  unfold ofValue pointed
  rw [requireText_of_lookup hversion, requireText_of_lookup hkind, requireText_of_lookup hname]
  simp only [bind, Except.bind]
  split <;> rfl

/-- A document fails at the first of the required texts that it does not have. -/
theorem ofValue_of_missing? (h : missing? value = some keys) :
    ofValue path value ns =
      .error (.manifest path ("document missing " ++ Text.joined "." keys)) := by
  unfold missing? requiredTexts at h
  by_cases hversion : HasText value ["apiVersion"]
  · rw [List.find?_cons_of_neg (by simpa [lacksText_iff] using hversion)] at h
    rcases hversion with ⟨apiVersion, hversion⟩
    by_cases hkind : HasText value ["kind"]
    · rw [List.find?_cons_of_neg (by simpa [lacksText_iff] using hkind)] at h
      rcases hkind with ⟨kind, hkind⟩
      have ⟨hname, same⟩ : ¬ HasText value ["metadata", "name"] ∧ ["metadata", "name"] = keys := by
        simpa [lacksText_iff] using h
      subst same
      simp only [ofValue, requireText_of_lookup hversion, requireText_of_lookup hkind,
        requireText_of_not_hasText hname, bind, Except.bind]
    · rw [List.find?_cons_of_pos (lacksText_iff.2 hkind)] at h
      cases h
      simp only [ofValue, requireText_of_lookup hversion, requireText_of_not_hasText hkind, bind,
        Except.bind]
  · rw [List.find?_cons_of_pos (lacksText_iff.2 hversion)] at h
    cases h
    simp only [ofValue, requireText_of_not_hasText hversion, bind, Except.bind]

theorem exists_texts_of_missing? (h : missing? value = none) :
    ∃ apiVersion kind name, value.lookup ["apiVersion"] = some (.str apiVersion) ∧
      value.lookup ["kind"] = some (.str kind) ∧
      value.lookup ["metadata", "name"] = some (.str name) := by
  have has := missing?_eq_none_iff.1 h
  rcases has ["apiVersion"] (by decide) with ⟨apiVersion, hversion⟩
  rcases has ["kind"] (by decide) with ⟨kind, hkind⟩
  rcases has ["metadata", "name"] (by decide) with ⟨name, hname⟩
  exact ⟨apiVersion, kind, name, hversion, hkind, hname⟩

theorem exists_ofValue_iff :
    (∃ manifest, ofValue path value ns = .ok manifest) ↔ missing? value = none := by
  constructor
  · rintro ⟨manifest, accepted⟩
    cases hmissing : missing? value with
    | none => rfl
    | some keys =>
        rw [ofValue_of_missing? hmissing] at accepted
        cases accepted
  · intro complete
    rcases exists_texts_of_missing? complete with
      ⟨apiVersion, kind, name, hversion, hkind, hname⟩
    exact ⟨_, ofValue_of_texts hversion hkind hname⟩

/-- What a document fails with is a required text that it does not have. -/
theorem exists_missing?_of_ofValue {error : Error} (h : ofValue path value ns = .error error) :
    ∃ keys, missing? value = some keys ∧
      error = .manifest path ("document missing " ++ Text.joined "." keys) := by
  cases hmissing : missing? value with
  | some keys =>
      rw [ofValue_of_missing? hmissing] at h
      cases h
      exact ⟨keys, rfl, rfl⟩
  | none =>
      rcases exists_ofValue_iff.2 hmissing with ⟨manifest, accepted⟩
      exact nomatch h.symm.trans accepted

/-- A manifest comes from a document with all required texts. -/
theorem exists_texts_of_ofValue (h : ofValue path value ns = .ok manifest) :
    ∃ apiVersion kind name, value.lookup ["apiVersion"] = some (.str apiVersion) ∧
      value.lookup ["kind"] = some (.str kind) ∧
      value.lookup ["metadata", "name"] = some (.str name) ∧
      manifest = pointed path value ns apiVersion kind name := by
  rcases exists_texts_of_missing? (exists_ofValue_iff.1 ⟨manifest, h⟩) with
    ⟨apiVersion, kind, name, hversion, hkind, hname⟩
  rw [ofValue_of_texts hversion hkind hname] at h
  cases h
  exact ⟨apiVersion, kind, name, hversion, hkind, hname, rfl⟩

/-! ## The namespace of a document -/

/-- Where a document has its namespace. -/
def namespaceKeys : List String := ["metadata", "namespace"]

def namespacePath : List Step := namespaceKeys.map Step.key

/-- The document is an object with an object of metadata in it. -/
def HasMetadata (value : Value) (entries metadata : Dict Value) : Prop :=
  value = .obj entries ∧ Dict.find? "metadata" entries = some (.obj metadata)

theorem exists_hasMetadata_of_lookup {w : Value} (h : value.lookup ["metadata", "name"] = some w) :
    ∃ entries metadata, HasMetadata value entries metadata := by
  cases Value.leads_of_lookup h with
  | enter holds onward =>
      cases onward with
      | enter => exact ⟨_, _, rfl, holds⟩

theorem HasMetadata.setNamespace_eq {entries metadata : Dict Value}
    (h : HasMetadata value entries metadata) (ns : String) :
    setNamespace ns value =
      .obj (Dict.insert "metadata" (.obj (Dict.insert "namespace" (.str ns) metadata)) entries) := by
  rcases h with ⟨rfl, hfind⟩
  simp only [setNamespace, hfind]

/-- Without an object of metadata there is no place for a namespace. -/
theorem setNamespace_cases (value : Value) :
    (∃ entries metadata, HasMetadata value entries metadata) ∨
      ∀ ns, setNamespace ns value = value := by
  unfold setNamespace
  split
  · next entries =>
      split
      · next metadata hfind => exact .inl ⟨entries, metadata, rfl, hfind⟩
      · exact .inr fun _ => rfl
  · exact .inr fun _ => rfl

/-- A document with a name has a place for its namespace. -/
theorem lookup_setNamespace {w : Value} (h : value.lookup ["metadata", "name"] = some w) :
    (setNamespace ns value).lookup namespaceKeys = some (.str ns) := by
  rcases exists_hasMetadata_of_lookup h with ⟨entries, metadata, hmetadata⟩
  rw [hmetadata.setNamespace_eq, Value.lookup_eq_at?]
  simp [namespaceKeys, Value.at?_insert_self]

/-- A path that neither leads to the namespace nor into it meets what it met before. -/
theorem at?_setNamespace_of_away {other : List Step} (notAbove : ¬ other <+: namespacePath)
    (notBelow : ¬ namespacePath <+: other) : (setNamespace ns value).at? other = value.at? other := by
  rcases setNamespace_cases value with ⟨entries, metadata, hmetadata⟩ | unchanged
  · rw [hmetadata.setNamespace_eq]
    rcases hmetadata with ⟨rfl, hfind⟩
    by_cases inside : [Step.key "metadata"] <+: other
    · rcases inside with ⟨rest, rfl⟩
      have nonempty : rest ≠ [] := by
        rintro rfl
        exact notAbove ⟨[.key "namespace"], rfl⟩
      have away : ¬ [Step.key "namespace"] <+: rest := by
        rintro ⟨further, rfl⟩
        exact notBelow ⟨further, rfl⟩
      calc
        _ = (Value.obj (Dict.insert "namespace" (.str ns) metadata)).at? rest :=
              Value.at?_insert_self
        _ = (Value.obj metadata).at? rest := Value.at?_insert_of_away nonempty away
        _ = (Value.obj entries).at? (.key "metadata" :: rest) := by
              simp [Value.at?_cons, Value.child?, Value.get?, hfind]
    · have nonempty : other ≠ [] := by
        rintro rfl
        exact notAbove List.nil_prefix
      exact Value.at?_insert_of_away nonempty inside
  · rw [unchanged ns]

/-- Of two namespaces the second one counts. -/
theorem setNamespace_setNamespace (first : String) :
    setNamespace ns (setNamespace first value) = setNamespace ns value := by
  rcases setNamespace_cases value with ⟨entries, metadata, hmetadata⟩ | unchanged
  · have again : HasMetadata (setNamespace first value)
        (Dict.insert "metadata" (.obj (Dict.insert "namespace" (.str first) metadata)) entries)
        (Dict.insert "namespace" (.str first) metadata) :=
      ⟨hmetadata.setNamespace_eq first, Dict.find?_insert_self _ _ _⟩
    rw [again.setNamespace_eq, hmetadata.setNamespace_eq, Dict.insert_insert, Dict.insert_insert]
  · rw [unchanged first]

/-- A path of keys that neither leads to the namespace nor into it meets what it met before. -/
theorem lookup_setNamespace_of_away (notAbove : ¬ keys.map Step.key <+: namespacePath)
    (notBelow : ¬ namespacePath <+: keys.map Step.key) :
    (setNamespace ns value).lookup keys = value.lookup keys := by
  rw [Value.lookup_eq_at?, Value.lookup_eq_at?]
  exact at?_setNamespace_of_away notAbove notBelow

/-! ## Manifests of documents -/

/-- What a manifest tells of its document. -/
structure Describes (value : Value) (manifest : Manifest) : Prop where
  apiVersion : value.lookup ["apiVersion"] = some (.str manifest.kind.apiVersion)
  kind : value.lookup ["kind"] = some (.str manifest.kind.name)
  plural : manifest.kind.plural = Kind.pluralOf manifest.kind.name
  name : value.lookup ["metadata", "name"] = some (.str manifest.name)

/-- The required texts of an accepted document are those of its manifest. -/
theorem describes_of_ofValue (h : ofValue path value ns = .ok manifest) :
    Describes value manifest := by
  rcases exists_texts_of_ofValue h with ⟨apiVersion, kind, name, hversion, hkind, hname, rfl⟩
  unfold pointed
  split
  · exact ⟨hversion, hkind, rfl, hname⟩
  · exact ⟨hversion, hkind, rfl, hname⟩

theorem path_of_ofValue (h : ofValue path value ns = .ok manifest) : manifest.path = path := by
  rcases exists_texts_of_ofValue h with ⟨apiVersion, kind, name, -, -, -, rfl⟩
  unfold pointed
  split <;> rfl

theorem of_isNamespaced (h : ofValue path value ns = .ok manifest)
    (namespaced : isNamespaced manifest.kind.name = true) :
    manifest.namespaceName = some ns ∧ manifest.value = setNamespace ns value := by
  rcases exists_texts_of_ofValue h with ⟨apiVersion, kind, name, -, -, -, rfl⟩
  unfold pointed at namespaced ⊢
  split at namespaced
  · next inside => simp [inside]
  · next outside => exact absurd namespaced outside

theorem of_not_isNamespaced (h : ofValue path value ns = .ok manifest)
    (clusterWide : isNamespaced manifest.kind.name = false) :
    manifest.namespaceName = none ∧ manifest.value = value := by
  rcases exists_texts_of_ofValue h with ⟨apiVersion, kind, name, -, -, -, rfl⟩
  unfold pointed at clusterWide ⊢
  split at clusterWide
  · next inside => exact absurd inside (Bool.eq_false_iff.1 clusterWide)
  · next outside => simp [outside]

/-- Pointing the object of a manifest at another namespace is pointing its document at it. -/
theorem ofValue_value (h : ofValue path value ns = .ok manifest) (further : String) :
    ofValue path manifest.value further = ofValue path value further := by
  rcases exists_texts_of_ofValue h with ⟨apiVersion, kind, name, hversion, hkind, hname, rfl⟩
  unfold pointed
  split
  · next inside =>
      have kept {keys : List String} {text : String} (htext : value.lookup keys = some (.str text))
          (notAbove : ¬ keys.map Step.key <+: namespacePath)
          (notBelow : ¬ namespacePath <+: keys.map Step.key) :
          (setNamespace ns value).lookup keys = some (.str text) :=
        (lookup_setNamespace_of_away notAbove notBelow).trans htext
      rw [ofValue_of_texts hversion hkind hname,
        ofValue_of_texts (kept hversion (by decide) (by decide)) (kept hkind (by decide) (by decide))
          (kept hname (by decide) (by decide))]
      simp only [pointed, inside, if_true, setNamespace_setNamespace]
  · rfl

/-- A document is accepted when it has texts for its API version, its kind and its name, and fails at
the first of these that is missing otherwise. Its manifest tells them. For a kind with namespaces the
manifest and its object have the given one, and the object is the document wherever a path neither
leads to the namespace nor into it. For any other kind the manifest has no namespace, and the object
is the document. Pointing the object at another namespace is the same as pointing the document at
it. -/
theorem ofValue_changes_namespace_only (path : String) (value : Value) (ns : String) :
    ((∃ manifest, ofValue path value ns = .ok manifest) ↔
        ∀ keys ∈ requiredTexts, HasText value keys) ∧
      (∀ keys, missing? value = some keys →
        ofValue path value ns =
          .error (.manifest path ("document missing " ++ Text.joined "." keys))) ∧
      ∀ manifest, ofValue path value ns = .ok manifest →
        manifest.path = path ∧ Describes value manifest ∧
          (isNamespaced manifest.kind.name = true →
            manifest.namespaceName = some ns ∧
              manifest.value.lookup namespaceKeys = some (.str ns) ∧
              ∀ other, ¬ other <+: namespacePath → ¬ namespacePath <+: other →
                manifest.value.at? other = value.at? other) ∧
          (isNamespaced manifest.kind.name = false →
            manifest.namespaceName = none ∧ manifest.value = value) ∧
          ∀ further, ofValue path manifest.value further = ofValue path value further := by
  refine ⟨exists_ofValue_iff.trans missing?_eq_none_iff, fun keys => ofValue_of_missing?, ?_⟩
  · intro manifest accepted
    refine ⟨path_of_ofValue accepted, describes_of_ofValue accepted, ?_,
      of_not_isNamespaced accepted, ofValue_value accepted⟩
    intro namespaced
    rcases of_isNamespaced accepted namespaced with ⟨target, object⟩
    rw [object]
    refine ⟨target, lookup_setNamespace (describes_of_ofValue accepted).name, ?_⟩
    intro other notAbove notBelow
    exact at?_setNamespace_of_away notAbove notBelow

/-- A service whose namespace is a number. -/
def numberedService : Value :=
  .obj [("apiVersion", .str "v1"), ("kind", .str "Service"),
    ("metadata", .obj [("finalizers", .arr [.str "keep"]), ("name", .str "web"),
      ("namespace", .num (.int 5))])]

/-- A service whose metadata are a list. -/
def listedService : Value :=
  .obj [("apiVersion", .str "v1"), ("kind", .str "Service"), ("metadata", .arr [.str "web"])]

theorem numberedService_moves_to_namespace :
    (∃ manifest, ofValue "web.yaml" numberedService "e2e" = .ok manifest ∧
      manifest.name = "web" ∧ manifest.namespaceName = some "e2e" ∧
      manifest.value.lookup namespaceKeys = some (.str "e2e") ∧
      manifest.value.at? [.key "metadata", .key "finalizers", .place 0] = some (.str "keep")) ∧
      ofValue "web.yaml" listedService "e2e" =
        .error (.manifest "web.yaml" "document missing metadata.name") := by
  rcases ofValue_changes_namespace_only "web.yaml" numberedService "e2e" with ⟨accepts, -, tells⟩
  rcases ofValue_changes_namespace_only "web.yaml" listedService "e2e" with ⟨-, fails, -⟩
  have texts : ∀ keys ∈ requiredTexts, HasText numberedService keys := by
    simp only [requiredTexts, List.forall_mem_cons, List.not_mem_nil, false_imp_iff, implies_true,
      and_true]
    exact ⟨⟨"v1", rfl⟩, ⟨"Service", rfl⟩, ⟨"web", rfl⟩⟩
  rcases accepts.2 texts with ⟨manifest, accepted⟩
  rcases tells manifest accepted with ⟨-, describes, inside, -, -⟩
  have hkind : manifest.kind.name = "Service" := by
    have written : numberedService.lookup ["kind"] = some (.str "Service") := rfl
    simpa using describes.kind.symm.trans written
  have hname : manifest.name = "web" := by
    have written : numberedService.lookup ["metadata", "name"] = some (.str "web") := rfl
    simpa using describes.name.symm.trans written
  rcases inside (by rw [hkind]; decide) with ⟨target, placed, kept⟩
  refine ⟨⟨manifest, accepted, hname, target, placed, ?_⟩, ?_⟩
  · exact kept _ (by decide) (by decide)
  · exact fails ["metadata", "name"] (by decide)

/-! ## The namespace of an object and of its request -/

/-- The object of a manifest carries the namespace that it is sent to, and none where it is sent to
none. -/
def Agrees (manifest : Manifest) : Prop :=
  manifest.value.lookup namespaceKeys = manifest.namespaceName.map Value.str

/-- The object of a manifest agrees with it exactly when its kind has namespaces or its document came
without one. A request that creates an object that agrees carries the namespace of its path. -/
theorem agrees_iff_namespaced_or_free {path ns : String} {value : Value} {manifest : Manifest}
    (accepted : ofValue path value ns = .ok manifest) :
    (manifest.Agrees ↔
        isNamespaced manifest.kind.name = true ∨ value.lookup namespaceKeys = none) ∧
      manifest.namespaceName = (if isNamespaced manifest.kind.name then some ns else none) ∧
      (manifest.Agrees → ∃ body carried,
        (Cluster.Request.apply manifest).body = some body ∧
          body.lookup namespaceKeys = carried.map Value.str ∧
          (Cluster.Request.apply manifest).path =
            Cluster.Request.resource ⟨manifest.kind, carried, manifest.name⟩) := by
  refine ⟨?_, ?_, ?_⟩
  · unfold Agrees
    cases namespaced : isNamespaced manifest.kind.name with
    | true =>
        rcases of_isNamespaced accepted namespaced with ⟨target, object⟩
        have placed : (setNamespace ns value).lookup namespaceKeys = some (.str ns) :=
          lookup_setNamespace (describes_of_ofValue accepted).name
        simp [target, object, placed]
    | false =>
        rcases of_not_isNamespaced accepted namespaced with ⟨target, object⟩
        simp [target, object]
  · cases namespaced : isNamespaced manifest.kind.name with
    | true => exact (of_isNamespaced accepted namespaced).1
    | false => exact (of_not_isNamespaced accepted namespaced).1
  · intro agrees
    exact ⟨manifest.value, manifest.namespaceName, rfl, agrees, rfl⟩

theorem numberedService_agrees :
    ∃ manifest, ofValue "web.yaml" numberedService "e2e" = .ok manifest ∧ manifest.Agrees ∧
      manifest.namespaceName = some "e2e" := by
  have accepted : ofValue "web.yaml" numberedService "e2e" =
      .ok (pointed "web.yaml" numberedService "e2e" "v1" "Service" "web") :=
    ofValue_of_texts rfl rfl rfl
  rcases agrees_iff_namespaced_or_free accepted with ⟨agrees, target, -⟩
  have namespaced : isNamespaced (pointed "web.yaml" numberedService "e2e" "v1" "Service"
    "web").kind.name = true := by decide
  exact ⟨_, accepted, agrees.2 (.inl namespaced), by rw [target, if_pos namespaced]⟩

/-- A role for the whole cluster that came with a namespace. -/
def strayRole : Value :=
  .obj [("apiVersion", .str "rbac.authorization.k8s.io/v1"), ("kind", .str "ClusterRole"),
    ("metadata", .obj [("name", .str "reader"), ("namespace", .str "default")])]

/-- Its object still carries that namespace, though it is sent to none. -/
theorem strayRole_does_not_agree :
    ∃ manifest, ofValue "roles.yaml" strayRole "e2e" = .ok manifest ∧ ¬ manifest.Agrees ∧
      manifest.namespaceName = none ∧
      manifest.value.lookup namespaceKeys = some (.str "default") := by
  have accepted : ofValue "roles.yaml" strayRole "e2e" =
      .ok (pointed "roles.yaml" strayRole "e2e" "rbac.authorization.k8s.io/v1" "ClusterRole"
        "reader") := ofValue_of_texts rfl rfl rfl
  rcases of_not_isNamespaced accepted (by decide) with ⟨target, object⟩
  have carried : strayRole.lookup namespaceKeys = some (.str "default") := rfl
  refine ⟨_, accepted, ?_, target, by rw [object, carried]⟩
  simp [Agrees, target, object, carried]

end Manifest

end Readiness
