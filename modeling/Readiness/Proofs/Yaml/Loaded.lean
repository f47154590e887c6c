import Mathlib.Data.List.Nodup
import Mathlib.Data.Option.Basic
import Mathlib.Tactic.SplitIfs
import Readiness.Proofs.Yaml.Trees

/-!
# Loaded — what the documents of a text are made of

* `Node.Loaded`: a tree without aliases, whose integers fit 64 bits, whose reals are texts that count
  as real and whose mappings have no key twice, at any depth and within keys;
* `Yields`: what a reader of tokens returns has a property, and its scope keeps loaded nodes only.
  `Yields.bind` says it of readers one after the other, and each reader of `Document` has a lemma;
* `loaded_of_readNodes?`: the documents of a text are loaded trees.
-/

namespace Readiness.Yaml

/-- The trees of documents. -/
inductive Node.Loaded : Node → Prop
  | null : Loaded null
  | bool (b : Bool) : Loaded (bool b)
  | int {i : Int} (signed : Json.Number.isSigned i = true) : Loaded (int i)
  | real {text : String} (recognised : isReal text = true) : Loaded (real text)
  | str (s : String) : Loaded (str s)
  | bad : Loaded bad
  | seq {items : List Node} (each : ∀ item ∈ items, Loaded item) : Loaded (seq items)
  | map {entries : List (Node × Node)} (keys : ∀ entry ∈ entries, Loaded entry.1)
      (values : ∀ entry ∈ entries, Loaded entry.2) (distinct : (entries.map (·.1)).Nodup) :
      Loaded (map entries)

theorem Node.Loaded.of_hasPart {root inner : Node} (h : root.Loaded)
    (here : root.HasPart (.value inner)) : inner.Loaded := by
  generalize same : Part.value inner = part at here
  induction here with
  | root node =>
      cases same
      exact h
  | item mem _ ih =>
      cases h with
      | seq each => exact ih (each _ mem) same
  | key mem => cases same
  | value mem _ ih =>
      cases h with
      | map keys values distinct => exact ih (values _ mem) same

/-! ## Scalars -/

namespace Node

theorem isSigned_of_guarded {read : Option Int} {i : Int}
    (h : (read.bind fun i => if Json.Number.isSigned i then some i else none) = some i) :
    Json.Number.isSigned i = true := by
  rcases Option.bind_eq_some_iff.1 h with ⟨j, -, kept⟩
  rcases Option.ite_none_right_eq_some.1 kept with ⟨signed, same⟩
  exact Option.some.inj same ▸ signed

theorem isSigned_of_intOf? {base : Nat} {text : List Char} {i : Int}
    (h : intOf? base text = some i) : Json.Number.isSigned i = true := by
  unfold intOf? at h
  split at h <;> exact isSigned_of_guarded h

theorem isSigned_of_readInt? {text : List Char} {i : Int} (h : readInt? text = some i) :
    Json.Number.isSigned i = true := by
  unfold readInt? at h
  rcases (Option.orElse_eq_some _ _ _).1 h with prefixed | ⟨-, plain⟩
  · split at prefixed
    · exact isSigned_of_intOf? prefixed
    · exact isSigned_of_intOf? prefixed
    · exact isSigned_of_intOf? prefixed
    · cases prefixed
  · exact isSigned_of_intOf? plain

theorem loaded_ofPlain (text : String) : (ofPlain text).Loaded := by
  unfold ofPlain
  split
  · next i read => exact .int (isSigned_of_readInt? read)
  · split_ifs with isNull isTrue isFalse recognised
    · exact .null
    · exact .bool true
    · exact .bool false
    · exact .real recognised
    · exact .str text

theorem loaded_ofTagged (tag : Tag) (text : String) : (ofTagged tag text).Loaded := by
  unfold ofTagged
  split
  · split
    · split_ifs
      · exact .bool true
      · exact .bool false
      · exact .bad
    · split
      · next i read => exact .int (isSigned_of_intOf? read)
      · exact .bad
    · split_ifs with recognised
      · exact .real recognised
      · exact .bad
    · split_ifs
      · exact .null
      · exact .bad
    · exact .str text
  · exact .str text

end Node

namespace Document

theorem loaded_scalarNode (tag : Option Tag) (plain : Bool) (text : String) :
    (scalarNode tag plain text).Loaded := by
  unfold scalarNode
  split
  · split
    · exact Node.loaded_ofTagged _ text
    · exact Node.loaded_ofPlain text
  · exact .str text

/-! ## Mappings -/

/-- All of these nodes are loaded. -/
def AllLoaded (nodes : List Node) : Prop := ∀ node ∈ nodes, node.Loaded

theorem AllLoaded.nil : AllLoaded [] := fun _ mem => absurd mem List.not_mem_nil

theorem AllLoaded.cons {node : Node} {nodes : List Node} (rest : AllLoaded nodes)
    (first : node.Loaded) : AllLoaded (node :: nodes) :=
  List.forall_mem_cons.2 ⟨first, rest⟩

theorem AllLoaded.reverse {nodes : List Node} (h : AllLoaded nodes) : AllLoaded nodes.reverse :=
  fun node mem => h node (List.mem_reverse.1 mem)

/-- Entries, the latest first, that a loaded mapping may have. -/
structure Sound (read : List (Node × Node)) : Prop where
  keys : ∀ entry ∈ read, entry.1.Loaded
  values : ∀ entry ∈ read, entry.2.Loaded
  distinct : (read.map (·.1)).Nodup

theorem Sound.loaded {read : List (Node × Node)} (h : Sound read) :
    (Node.map read.reverse).Loaded := by
  refine .map (fun entry mem => h.keys entry (List.mem_reverse.1 mem))
    (fun entry mem => h.values entry (List.mem_reverse.1 mem)) ?_
  rw [List.map_reverse, List.nodup_reverse]
  exact h.distinct

theorem loaded_entriesOf? {read entries : List (Node × Node)} {nodes : List Node} (h : Sound read)
    (each : AllLoaded nodes) (parsed : entriesOf? read nodes = some entries) :
    (Node.map entries).Loaded := by
  fun_induction entriesOf? read nodes with
  | case1 read =>
      cases parsed
      exact h.loaded
  | case2 read node =>
      cases parsed
      exact h.loaded
  | case3 read key value rest isBad ih =>
      exact ih h (List.forall_mem_cons.1 each).2 parsed
  | case4 read key value rest fine known => cases parsed
  | case5 read key value rest fine new ih =>
      rcases List.forall_mem_cons.1 each with ⟨hkey, further⟩
      rcases List.forall_mem_cons.1 further with ⟨hvalue, hrest⟩
      have fresh : key ∉ read.map (·.1) := by
        simpa using new
      refine ih ⟨List.forall_mem_cons.2 ⟨hkey, h.keys⟩, List.forall_mem_cons.2 ⟨hvalue, h.values⟩,
        ?_⟩ hrest parsed
      exact List.nodup_cons.2 ⟨fresh, h.distinct⟩

theorem loaded_of_entriesOf? {entries : List (Node × Node)} {nodes : List Node}
    (each : AllLoaded nodes) (parsed : entriesOf? [] nodes = some entries) :
    (Node.map entries).Loaded :=
  loaded_entriesOf? ⟨by simp, by simp, by simp⟩ each parsed

end Document

/-! ## Readers -/

/-- The complete nodes of anchors are loaded. -/
def Scope.Loaded (scope : Scope) : Prop := ∀ anchored ∈ scope.nodes, anchored.2.Loaded

namespace Scope

variable {scope : Scope}

theorem Loaded.of_nodes_eq {scope' : Scope} (h : scope.Loaded) (same : scope'.nodes = scope.nodes) :
    scope'.Loaded := by
  intro anchored mem
  exact h anchored (same ▸ mem)

theorem Loaded.complete {node : Node} (h : scope.Loaded) (hnode : node.Loaded)
    (anchor : Option Nat) : (scope.complete anchor node).Loaded := by
  cases anchor with
  | none => exact h
  | some id => exact List.forall_mem_cons.2 ⟨hnode, h⟩

theorem Loaded.resolve? {name : String} {node : Node} (h : scope.Loaded)
    (found : scope.resolve? name = some node) : node.Loaded := by
  simp only [Scope.resolve?, Option.bind_eq_bind, Option.bind_eq_some_iff, Option.some.injEq]
    at found
  rcases found with ⟨id, -, rfl⟩
  cases complete : scope.nodes.lookup id with
  | none => exact .bad
  | some node =>
      rcases List.lookup_eq_some_iff.1 complete with ⟨before, behind, split, -⟩
      exact h (id, node) (by simp [split])

end Scope

/-- What is read has a property, and the scope behind it is loaded. -/
def Yields {α : Type} (P : α → Prop) (result : Option (Document.Parsed α)) : Prop :=
  ∀ a scope rest, result = some (a, scope, rest) → P a ∧ scope.Loaded

namespace Yields

variable {α β γ : Type} {P : α → Prop} {Q : β → Prop} {result : Option (Document.Parsed α)}

theorem fails : Yields P none := by
  intro a scope rest h
  cases h

theorem returns {a : α} {scope : Scope} {rest : List Token} (ha : P a) (hscope : scope.Loaded) :
    Yields P (some (a, scope, rest)) := by
  intro a' scope' rest' h
  cases h
  exact ⟨ha, hscope⟩

theorem elim {R : γ → Prop} {c : γ} {further : Document.Parsed α → Option γ} (h : Yields P result)
    (found : (result >>= further) = some c)
    (hfurther : ∀ a scope rest, P a → scope.Loaded → further (a, scope, rest) = some c → R c) :
    R c := by
  rcases Option.bind_eq_some_iff.1 found with ⟨⟨a, scope, rest⟩, first, second⟩
  rcases h a scope rest first with ⟨ha, hscope⟩
  exact hfurther a scope rest ha hscope second

/-- Readers one after the other. -/
theorem bind {further : Document.Parsed α → Option (Document.Parsed β)} (h : Yields P result)
    (hfurther : ∀ a scope rest, P a → scope.Loaded → Yields Q (further (a, scope, rest))) :
    Yields Q (result >>= further) := by
  intro b scope rest found
  exact h.elim (R := fun parsed => Q parsed.1 ∧ parsed.2.1.Loaded) found
    fun a scope' rest' ha hscope second => hfurther a scope' rest' ha hscope b scope rest second

/-- A reader behind something that may be missing. -/
theorem behind {known : Option γ} {further : γ → Option (Document.Parsed β)}
    (h : ∀ c, known = some c → Yields Q (further c)) : Yields Q (known >>= further) := by
  intro b scope rest found
  rcases Option.bind_eq_some_iff.1 found with ⟨c, first, second⟩
  exact h c first b scope rest second

end Yields

namespace Document

theorem yields_properties {scope : Scope} (h : scope.Loaded) (tokens : List Token) :
    Yields (fun _ => True) (properties scope tokens) := by
  unfold properties
  split
  · exact .behind fun _ _ => .returns trivial h
  · exact .returns trivial h
  · exact .behind fun _ _ => .returns trivial h
  · exact .behind fun _ _ => .returns trivial h
  · exact .returns trivial h

theorem yields_leftOut {scope : Scope} (h : scope.Loaded) (props : Properties)
    (tokens : List Token) : Yields Node.Loaded (leftOut props scope tokens) := by
  unfold leftOut
  split
  · exact .returns (loaded_scalarNode _ _ _) h
  · exact .fails

mutual

theorem yields_node (fuel : Nat) (block indentless : Bool) {scope : Scope} (tokens : List Token)
    (h : scope.Loaded) : Yields Node.Loaded (node fuel block indentless scope tokens) := by
  cases fuel with
  | zero => exact .fails
  | succ fuel =>
      unfold node
      split
      · intro node scope' rest found
        rcases Option.map_eq_some_iff.1 found with ⟨node', resolved, same⟩
        cases same
        exact ⟨h.resolve? resolved, h⟩
      · refine .bind (yields_properties h tokens) fun props scope tokens _ h => ?_
        have complete (node : Node) (scope : Scope) (rest : List Token) (hnode : node.Loaded)
            (hscope : scope.Loaded) :
            Yields Node.Loaded (some (node, scope.complete props.anchor node, rest)) :=
          .returns hnode (hscope.complete hnode _)
        dsimp only
        split
        · exact .bind (.returns (loaded_scalarNode _ _ _) h) complete
        · refine .bind (yields_flowItems fuel true _ .nil h) fun items scope rest each h => ?_
          exact .bind (.returns (.seq each) h) complete
        · refine .bind (yields_flowPairs fuel true _ .nil h) fun nodes scope rest each h => ?_
          refine .behind fun entries parsed => ?_
          exact .bind (.returns (loaded_of_entriesOf? each parsed) h) complete
        · split
          · refine .bind (yields_blockItems fuel _ .nil h) fun items scope rest each h => ?_
            exact .bind (.returns (.seq each) h) complete
          · exact .bind (yields_leftOut h _ _) complete
        · split
          · refine .bind (yields_blockPairs fuel _ .nil h) fun nodes scope rest each h => ?_
            refine .behind fun entries parsed => ?_
            exact .bind (.returns (loaded_of_entriesOf? each parsed) h) complete
          · exact .bind (yields_leftOut h _ _) complete
        · split
          · refine .bind (yields_indentlessItems fuel _ .nil h) fun items scope rest each h => ?_
            exact .bind (.returns (.seq each) h) complete
          · exact .bind (yields_leftOut h _ _) complete
        · exact .bind (yields_leftOut h _ _) complete

theorem yields_blockItems (fuel : Nat) {read : List Node} {scope : Scope} (tokens : List Token)
    (hread : AllLoaded read) (h : scope.Loaded) :
    Yields AllLoaded (blockItems fuel read scope tokens) := by
  cases fuel with
  | zero => exact .fails
  | succ fuel =>
      unfold blockItems
      split
      · exact .returns hread.reverse h
      · split
        · exact yields_blockItems fuel _ (hread.cons .null) h
        · exact yields_blockItems fuel _ (hread.cons .null) h
        · refine .bind (yields_node fuel true false _ h) fun item scope rest hitem h => ?_
          exact yields_blockItems fuel rest (hread.cons hitem) h
      · exact .fails

theorem yields_indentlessItems (fuel : Nat) {read : List Node} {scope : Scope}
    (tokens : List Token) (hread : AllLoaded read) (h : scope.Loaded) :
    Yields AllLoaded (indentlessItems fuel read scope tokens) := by
  cases fuel with
  | zero => exact .fails
  | succ fuel =>
      unfold indentlessItems
      split
      · split
        · exact yields_indentlessItems fuel _ (hread.cons .null) h
        · split
          · exact yields_indentlessItems fuel _ (hread.cons .null) h
          · refine .bind (yields_node fuel true false _ h) fun item scope rest hitem h => ?_
            exact yields_indentlessItems fuel rest (hread.cons hitem) h
        · exact .fails
      · exact .returns hread.reverse h

theorem yields_blockPairs (fuel : Nat) {read : List Node} {scope : Scope} (tokens : List Token)
    (hread : AllLoaded read) (h : scope.Loaded) :
    Yields AllLoaded (blockPairs fuel read scope tokens) := by
  cases fuel with
  | zero => exact .fails
  | succ fuel =>
      unfold blockPairs
      split
      · exact .returns hread.reverse h
      · exact yields_blockValue fuel _ (hread.cons .null) h
      · split
        · split
          · exact yields_blockValue fuel _ (hread.cons .null) h
          · refine .bind (yields_node fuel true true _ h) fun key scope rest hkey h => ?_
            exact yields_blockValue fuel rest (hread.cons hkey) h
        · exact .fails
      · exact .fails

theorem yields_blockValue (fuel : Nat) {read : List Node} {scope : Scope} (tokens : List Token)
    (hread : AllLoaded read) (h : scope.Loaded) :
    Yields AllLoaded (blockValue fuel read scope tokens) := by
  cases fuel with
  | zero => exact .fails
  | succ fuel =>
      unfold blockValue
      split
      · split
        · split
          · exact yields_blockPairs fuel _ (hread.cons .null) h
          · refine .bind (yields_node fuel true true _ h) fun value scope rest hvalue h => ?_
            exact yields_blockPairs fuel rest (hread.cons hvalue) h
        · exact .fails
      · exact yields_blockPairs fuel _ (hread.cons .null) h

theorem yields_flowItems (fuel : Nat) (first : Bool) {read : List Node} {scope : Scope}
    (tokens : List Token) (hread : AllLoaded read) (h : scope.Loaded) :
    Yields AllLoaded (flowItems fuel first read scope tokens) := by
  cases fuel with
  | zero => exact .fails
  | succ fuel =>
      unfold flowItems
      split
      · exact .returns hread.reverse h
      · split
        · exact .fails
        · exact yields_flowItem fuel _ hread h
      · split
        · exact yields_flowItem fuel tokens hread h
        · exact .fails

theorem yields_flowItem (fuel : Nat) {read : List Node} {scope : Scope} (tokens : List Token)
    (hread : AllLoaded read) (h : scope.Loaded) :
    Yields AllLoaded (flowItem fuel read scope tokens) := by
  cases fuel with
  | zero => exact .fails
  | succ fuel =>
      unfold flowItem
      split
      · exact .returns hread.reverse h
      · refine .bind (yields_singlePair fuel _ h) fun item scope rest hitem h => ?_
        exact yields_flowItems fuel false rest (hread.cons hitem) h
      · refine .bind (yields_node fuel false false tokens h) fun item scope rest hitem h => ?_
        exact yields_flowItems fuel false rest (hread.cons hitem) h

theorem yields_singlePair (fuel : Nat) {scope : Scope} (tokens : List Token) (h : scope.Loaded) :
    Yields Node.Loaded (singlePair fuel scope tokens) := by
  cases fuel with
  | zero => exact .fails
  | succ fuel =>
      unfold singlePair
      extract_lets withValue
      have hvalue (key : Node) (scope : Scope) (rest : List Token) (hkey : key.Loaded)
          (h : scope.Loaded) : Yields Node.Loaded (withValue (key, scope, rest)) := by
        have hpair (value : Node) (scope : Scope) (rest : List Token) (hvalue : value.Loaded)
            (h : scope.Loaded) : Yields Node.Loaded (entriesOf? [] [key, value] >>= fun entries =>
              some (Node.map entries, scope, rest)) :=
          .behind fun entries parsed =>
            .returns (loaded_of_entriesOf? ((AllLoaded.nil.cons hvalue).cons hkey) parsed) h
        dsimp only [withValue]
        split
        · exact .bind (.returns .null h) hpair
        · exact .bind (.returns .null h) hpair
        · exact .bind (yields_node fuel false false _ h) hpair
        · exact .bind (.returns .null h) hpair
      split
      · exact .bind (.returns .null h) hvalue
      · exact .bind (.returns .null h) hvalue
      · exact .bind (.returns .null h) hvalue
      · exact .bind (yields_node fuel false false tokens h) hvalue

theorem yields_flowPairs (fuel : Nat) (first : Bool) {read : List Node} {scope : Scope}
    (tokens : List Token) (hread : AllLoaded read) (h : scope.Loaded) :
    Yields AllLoaded (flowPairs fuel first read scope tokens) := by
  cases fuel with
  | zero => exact .fails
  | succ fuel =>
      unfold flowPairs
      split
      · exact .returns hread.reverse h
      · split
        · exact .fails
        · exact yields_flowPair fuel _ hread h
      · split
        · exact yields_flowPair fuel tokens hread h
        · exact .fails

theorem yields_flowPair (fuel : Nat) {read : List Node} {scope : Scope} (tokens : List Token)
    (hread : AllLoaded read) (h : scope.Loaded) :
    Yields AllLoaded (flowPair fuel read scope tokens) := by
  cases fuel with
  | zero => exact .fails
  | succ fuel =>
      unfold flowPair
      split
      · exact .returns hread.reverse h
      · exact yields_flowValue fuel _ (hread.cons .null) h
      · split
        · exact yields_flowValue fuel _ (hread.cons .null) h
        · exact yields_flowValue fuel _ (hread.cons .null) h
        · exact yields_flowValue fuel _ (hread.cons .null) h
        · refine .bind (yields_node fuel false false _ h) fun key scope rest hkey h => ?_
          exact yields_flowValue fuel rest (hread.cons hkey) h
      · refine .bind (yields_node fuel false false tokens h) fun key scope rest hkey h => ?_
        exact yields_flowPairs fuel false rest ((hread.cons hkey).cons .null) h

theorem yields_flowValue (fuel : Nat) {read : List Node} {scope : Scope} (tokens : List Token)
    (hread : AllLoaded read) (h : scope.Loaded) :
    Yields AllLoaded (flowValue fuel read scope tokens) := by
  cases fuel with
  | zero => exact .fails
  | succ fuel =>
      unfold flowValue
      split
      · split
        · exact yields_flowPairs fuel false _ (hread.cons .null) h
        · exact yields_flowPairs fuel false _ (hread.cons .null) h
        · refine .bind (yields_node fuel false false _ h) fun value scope rest hvalue h => ?_
          exact yields_flowPairs fuel false rest (hread.cons hvalue) h
      · exact yields_flowPairs fuel false tokens (hread.cons .null) h

end

/-! ## Documents -/

theorem yields_content (fuel : Nat) {scope : Scope} (tokens : List Token) (h : scope.Loaded) :
    Yields Node.Loaded (content fuel scope tokens) := by
  unfold content
  split
  · split
    · exact .returns .null h
    · exact yields_node fuel true false _ h
  · exact .fails

theorem nodes_of_directives {versioned : Bool} {scope scope' : Scope} {front rest : List Token}
    (parsed : directives versioned scope front = some (scope', rest)) :
    scope'.nodes = scope.nodes := by
  fun_induction directives versioned scope front with
  | case1 => cases parsed
  | case2 versioned scope rest fresh ih => exact ih parsed
  | case3 versioned scope handle meaning rest ih => exact ih parsed
  | case4 =>
      cases parsed
      rfl

theorem allLoaded_documents (fuel : Nat) {bare : Bool} {read nodes : List Node} {scope : Scope}
    {tokens : List Token} (hread : AllLoaded read) (h : scope.Loaded)
    (parsed : documents fuel bare read scope tokens = some nodes) : AllLoaded nodes := by
  induction fuel generalizing bare read scope tokens with
  | zero => cases parsed
  | succ fuel ih =>
      unfold documents at parsed
      extract_lets tokens' fresh goOn at parsed
      have hfresh : fresh.Loaded := h.of_nodes_eq rfl
      -- Behind a document, whichever way it was read, the others follow.
      have hgoOn (doc : Node) (scope : Scope) (rest : List Token) (hdoc : doc.Loaded)
          (h : scope.Loaded) (further : goOn (doc, scope, rest) = some nodes) :
          AllLoaded nodes := by
        have h : Scope.Loaded { scope with handle := none } := h.of_nodes_eq rfl
        dsimp only [goOn] at further
        split at further
        · exact ih (hread.cons hdoc) h further
        · cases further
        · exact ih (hread.cons hdoc) h further
      clear_value tokens'
      split at parsed
      · cases parsed
      · cases parsed
        exact hread.reverse
      · extract_lets explicit at parsed
        split at parsed
        · rcases Option.bind_eq_some_iff.1 parsed with ⟨⟨scope, rest⟩, hdirectives, document⟩
          have h : scope.Loaded := hfresh.of_nodes_eq (nodes_of_directives hdirectives)
          dsimp only at document
          split at document
          · exact (yields_content _ _ h).elim document hgoOn
          · cases document
        · exact (yields_node _ true false _ hfresh).elim parsed hgoOn

end Document

/-- The documents of a text are loaded trees. -/
theorem loaded_of_readNodes? {text : String} {nodes : List Node} (h : readNodes? text = some nodes)
    {node : Node} (mem : node ∈ nodes) : node.Loaded := by
  rcases Option.bind_eq_some_iff.1 h with ⟨tokens, -, parsed⟩
  have empty : Scope.empty.Loaded := by
    intro anchored mem
    cases mem
  exact Document.allLoaded_documents _ .nil empty parsed node mem

end Readiness.Yaml
