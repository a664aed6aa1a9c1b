import AgentOrchestration.CanonicalJson
import AgentOrchestration.Flows.DraftExecution

/-!
# The content address of a graph

`FlowGraphCompiler.compile` hashes the canonical JSON text of the snapshot. Two accepted
drafts have the same text exactly if they are the same graph: the same start node, the
same node map and the same edges, in any order.
-/

namespace AgentOrchestration

set_option autoImplicit false

open Value (sortKeys)
open OrderedDict (keys)
open FlowGraphDraftValidator (validate)
open Value (areJson isJson_dict isJson_list)

/-! ## The snapshot as a document -/

def FlowGraphNodeSpec.modelDump (spec : FlowGraphNodeSpec) : Value :=
  .dict [("type", .str spec.type), ("config", (spec.config.map Value.dict).getD .null)]

def SnapshotEdge.document (edge : SnapshotEdge) : Value :=
  .dict [("from_node", .str edge.fromNode), ("to_node", .str edge.toNode),
    ("edge_kind", (edge.edgeKind.map Value.str).getD .null),
    ("condition", (edge.condition.map Value.str).getD .null),
    ("compiled_condition", edge.compiledCondition.getD .null)]

namespace FlowGraphCompiler

/-- The dictionary `snapshot` that `compile` returns; `none` where the compilation of a condition
raises. -/
def document (definition : FlowGraphDefinition) : Option Value :=
  (compile definition).map fun snapshot => .dict [("start_node", .str definition.startNode),
      ("nodes", .dict (definition.nodes.map fun entry => (entry.1, entry.2.modelDump))),
      ("edges", .list (snapshot.edges.map SnapshotEdge.document)), ("schema_version", .int 1)]

/-- The text that is hashed; `none` where it is not reached. -/
def hashInput (format : FloatFormat) (definition : FlowGraphDefinition) : Option String :=
  (document definition).bind (Value.dumps format)

end FlowGraphCompiler

/-! ## The same graph -/

structure FlowGraphNodeSpec.Same (first second : FlowGraphNodeSpec) : Prop where
  type : first.type = second.type
  config : Option.Rel (fun config config' => Value.Same (.dict config) (.dict config')) first.config
    second.config

/-- The same start node, the same node map up to the order of keys, and the same edges up to their
order. -/
structure FlowGraphDefinition.SameGraph (first second : FlowGraphDefinition) : Prop where
  startNode : first.startNode = second.startNode
  nodes : ∀ key, Option.Rel FlowGraphNodeSpec.Same (first.nodes.lookup key)
    (second.nodes.lookup key)
  edges : first.edges.Perm second.edges

variable (definition : FlowGraphDefinition)

def FlowGraphDefinition.jsonConfigs : Bool :=
  definition.nodes.all fun entry => entry.2.config.all fun config => (Value.dict config).isJson

theorem FlowGraphDefinition.isJson_config (json : definition.jsonConfigs = true) {node}
    (mem : node ∈ definition.nodes) :
    ∀ cfg ∈ node.2.config, (Value.dict cfg).isJson = true := by
  intro cfg some
  have all := List.all_eq_true.mp json node mem
  rw [Option.mem_def.mp some] at all
  exact all

/-! ## Conditions are JSON -/

namespace EdgeEvaluator

theorem isJson_literal (atom : Literal) : atom.toSerializable.isJson = true := by
  cases atom <;> rfl

theorem isJson_tagged {tag name val} (apart : name ≠ "__type__") (json : val.isJson = true) :
    (Value.dict [("__type__", .str tag), (name, val)]).isJson = true := by
  rw [isJson_dict]
  refine ⟨by simp [keys, Ne.symm apart], ?_⟩
  rintro entry mem
  simp only [List.mem_cons, List.not_mem_nil, or_false] at mem
  rcases mem with rfl | rfl
  · rfl
  · exact json

theorem isJson_path (property : Path) : property.toSerializable.isJson = true := by
  refine isJson_tagged (by decide) (isJson_list.mpr fun val mem => ?_)
  obtain ⟨segment, -, rfl⟩ := List.mem_map.mp mem
  refine isJson_list.mpr fun part isIn => ?_
  rcases List.mem_cons.mp isIn with rfl | later
  · rfl
  · obtain ⟨idx, -, rfl⟩ := List.mem_map.mp later
    rfl

theorem isJson_listItem (item : ListItem) : item.toSerializable.isJson = true := by
  cases item with
  | literal atom => exact isJson_literal atom
  | path property => exact isJson_path property

mutual

theorem Term.isJson_toSerializable : ∀ term : Term, term.toSerializable.isJson = true
  | .literal atom => isJson_literal atom
  | .path property => isJson_path property
  | .len property => isJson_tagged (by decide) (isJson_path property)
  | .list items => by
    refine isJson_tagged (by decide) (isJson_list.mpr fun val mem => ?_)
    obtain ⟨item, -, rfl⟩ := List.mem_map.mp mem
    exact isJson_listItem item
  | .call fn first rest => by
    simp [Term.toSerializable, Value.isJson, areJson, Term.isJson_toSerializable first,
      areJson_serializeArguments rest]
  | .compare left op right rest => by
    simp [Term.toSerializable, Value.isJson, areJson, Term.isJson_toSerializable left,
      Term.isJson_toSerializable right, areJson_serializeComparisons rest]
  | .not operand =>
    by simp [Term.toSerializable, Value.isJson, areJson, Term.isJson_toSerializable operand]
  | .chain conn first second rest => by
    simp [Term.toSerializable, Value.isJson, areJson, Term.isJson_toSerializable first,
      Term.isJson_toSerializable second, areJson_serializeOperands conn rest]

theorem areJson_serializeArguments : ∀ terms : List Term, areJson (serializeArguments terms) = true
  | [] => rfl
  | term :: rest => by
    simp [serializeArguments, areJson, Term.isJson_toSerializable term,
      areJson_serializeArguments rest]

theorem areJson_serializeComparisons : ∀ comparisons : List (BinaryOperator × Term),
    areJson (serializeComparisons comparisons) = true
  | [] => rfl
  | (operator, operand) :: rest => by
    simp [serializeComparisons, areJson, Value.isJson, Term.isJson_toSerializable operand,
      areJson_serializeComparisons rest]

theorem areJson_serializeOperands (conn : Connective) : ∀ terms : List Term,
    areJson (serializeOperands conn terms) = true
  | [] => rfl
  | operand :: rest => by
    simp [serializeOperands, areJson, Value.isJson, Term.isJson_toSerializable operand,
      areJson_serializeOperands conn rest]

end

end EdgeEvaluator

/-! ## No two edges leave a node on the same condition -/

namespace FlowGraphDraftValidator

variable {libraries : DraftLibraries}

theorem lookup_byFrom (nodeId : String) :
    ∀ (edges : List FlowGraphEdge) (byFrom : List (String × List FlowGraphEdge)),
    ((edges.foldl addByFrom byFrom).lookup nodeId).getD [] =
      (byFrom.lookup nodeId).getD [] ++ edges.filter fun edge => edge.fromNode = nodeId := by
  intro edges
  induction edges with
  | nil => exact fun byFrom => (List.append_nil _).symm
  | cons edge rest ih =>
    intro byFrom
    rw [List.foldl_cons, ih, addByFrom, OrderedDict.lookup_set]
    by_cases leaves : edge.fromNode = nodeId
    · simp [leaves]
    · simp [leaves, Ne.symm leaves]

variable {edges : List FlowGraphEdge}

theorem nodup_conditions (exclusive : validateMutualExclusion libraries edges = .ok ())
    (nodeId : String) :
    ((edges.filter fun edge => edge.fromNode = nodeId).map (·.condition)).Nodup := by
  have group := lookup_byFrom nodeId edges []
  rw [List.lookup_nil, Option.getD_none, List.nil_append] at group
  rw [← group]
  cases found : (edges.foldl addByFrom []).lookup nodeId with
  | none => exact List.nodup_nil
  | some leaving =>
    obtain ⟨before, after, split, -⟩ := List.lookup_eq_some_iff.mp found
    have passed := Checks.each_ok_iff.mp exclusive (nodeId, leaving) (by rw [split]; simp)
    rw [Option.getD_some]
    unfold validateGroup at passed
    split at passed
    · rename_i few
      rcases leaving with - | ⟨edge, - | ⟨next, rest⟩⟩
      · exact List.nodup_nil
      · exact List.nodup_singleton _
      · simp at few
    · exact (Checks.require_ok_iff.mp (Checks.andThen_ok_iff.mp passed).1)

theorem distinct_of_validateMutualExclusion
    (exclusive : validateMutualExclusion libraries edges = .ok ()) :
    (edges.map FlowGraphCompiler.sortKey).Nodup := by
  rw [List.Nodup, List.pairwise_map, List.pairwise_iff_getElem]
  intro i j inside inside' before eq
  have apart := nodup_conditions exclusive edges[i].fromNode
  rw [List.Nodup, List.pairwise_map, List.pairwise_filter, List.pairwise_iff_getElem] at apart
  obtain ⟨source, later⟩ := Prod.mk.inj (toLex.injective eq)
  obtain ⟨-, cond⟩ := Prod.mk.inj (toLex.injective later)
  exact apart i j inside inside' before (by simp) (by simp [source]) cond

theorem exclusive_of_validate {flow} (accepted : validate libraries flow = .ok ()) :
    validateMutualExclusion libraries flow.edges = .ok () := by
  simp only [validate, Checks.andThen_ok_iff] at accepted
  exact accepted.2.2.2.1

end FlowGraphDraftValidator

/-! ## The text determines the graph -/

theorem FlowGraphNodeSpec.sortKeys_modelDump_iff {first second : FlowGraphNodeSpec}
    (json : ∀ config ∈ first.config, (Value.dict config).isJson = true) :
    sortKeys first.modelDump = sortKeys second.modelDump ↔ first.Same second := by
  refine (Value.sortKeys_record_iff ?distinct ?aligned).trans ?_
  case distinct => simp [keys]
  case aligned => rfl
  obtain ⟨type, config⟩ := first
  obtain ⟨type', config'⟩ := second
  have configs : sortKeys ((config.map Value.dict).getD .null) =
      sortKeys ((config'.map Value.dict).getD .null) ↔
      Option.Rel (fun config config' => Value.Same (.dict config) (.dict config')) config
        config' := by
    cases config with
    | none => cases config' <;> simp [sortKeys]
    | some fields =>
      cases config' with
      | none => simp [sortKeys]
      | some fields' => simp [Value.sortKeys_eq_iff (json fields rfl)]
  simp only [List.map_cons, List.map_nil, List.cons.injEq, and_true, configs, sortKeys,
    Value.str.injEq]
  constructor
  · rintro ⟨sameType, sameConfig⟩
    exact ⟨sameType, sameConfig⟩
  · intro eq
    exact ⟨eq.type, eq.config⟩

namespace FlowGraphCompiler

theorem sortKeys_document_injective :
    Function.Injective fun edge : FlowGraphEdge => sortKeys (snapshotEdge edge).document := by
  intro first second eq
  simp only [SnapshotEdge.document] at eq
  rw [Value.sortKeys_record_iff (by simp [keys]) (by simp [keys])] at eq
  simp only [snapshotEdge, List.map_cons, List.map_nil, List.cons.injEq, and_true, sortKeys,
    Value.str.injEq, Option.map_some, Option.getD_some] at eq
  obtain ⟨source, target, kind, condition, -⟩ := eq
  have sameKind : first.edgeKind = second.edgeKind := by
    have names := congrArg EdgeKind.ofName kind
    rw [EdgeKind.ofName_value, EdgeKind.ofName_value] at names
    exact Option.some.inj names
  cases first
  cases second
  simp_all

def documentOf : Value := .dict [("start_node", .str definition.startNode),
    ("nodes", .dict (definition.nodes.map fun entry => (entry.1, entry.2.modelDump))),
    ("edges", .list ((sortEdges definition.edges).map fun edge => (snapshotEdge edge).document)),
    ("schema_version", .int 1)]

theorem document_eq_some {flow} (valid : FlowGraphDraftValidator.Validated flow) :
    document flow = some (documentOf flow) := by
  rw [document, compile_eq_some valid, Option.map_some, snapshotOf, documentOf, List.map_map]
  rfl

variable {first second : FlowGraphDefinition}

theorem sortKeys_nodes_iff (json : first.jsonConfigs = true) :
    sortKeys (.dict (first.nodes.map fun entry => (entry.1, entry.2.modelDump))) =
        sortKeys (.dict (second.nodes.map fun entry => (entry.1, entry.2.modelDump))) ↔
      ∀ key, Option.Rel FlowGraphNodeSpec.Same (first.nodes.lookup key)
        (second.nodes.lookup key) := by
  have uniq (flow : FlowGraphDefinition) :
      (keys (flow.nodes.map fun entry => (entry.1, entry.2.modelDump))).Nodup := by
    rw [keys, List.map_map]
    exact flow.distinct
  rw [Value.sortKeys_dict_iff (uniq first) (uniq second)]
  refine forall_congr' fun key => ?_
  rw [OrderedDict.lookup_map_values, OrderedDict.lookup_map_values]
  cases found : first.nodes.lookup key with
  | none => cases second.nodes.lookup key <;> simp
  | some spec =>
    have configs :=
      first.isJson_config json ((OrderedDict.lookup_eq_some_iff_mem first.distinct).mp found)
    cases second.nodes.lookup key with
    | none => simp
    | some spec' => simp [FlowGraphNodeSpec.sortKeys_modelDump_iff configs]

theorem sortKeys_edges_iff (uniq : (first.edges.map sortKey).Nodup) :
    sortKeys (.list ((sortEdges first.edges).map fun edge => (snapshotEdge edge).document)) =
        sortKeys (.list ((sortEdges second.edges).map fun edge => (snapshotEdge edge).document)) ↔
      first.edges.Perm second.edges := by
  rw [Value.sortKeys_list, Value.sortKeys_list, Value.list.injEq, List.map_map, List.map_map]
  refine (List.map_injective_iff.mpr sortKeys_document_injective).eq_iff.trans ?_
  exact OrderedDict.insertionSort_eq_iff sortKey uniq

theorem sortKeys_documentOf_iff (json : first.jsonConfigs = true)
    (distinct : (first.edges.map sortKey).Nodup) :
    sortKeys (documentOf first) = sortKeys (documentOf second) ↔ first.SameGraph second := by
  refine (Value.sortKeys_record_iff ?distinct ?aligned).trans ?_
  case distinct => simp [keys]
  case aligned => rfl
  simp only [List.map_cons, List.map_nil, List.cons.injEq, and_true]
  rw [sortKeys_nodes_iff json, sortKeys_edges_iff distinct]
  simp only [sortKeys, Value.str.injEq]
  constructor
  · rintro ⟨start, nodes, edges⟩
    exact ⟨start, nodes, edges⟩
  · intro eq
    exact ⟨eq.startNode, eq.nodes, eq.edges⟩

theorem isJson_compiled (edge : FlowGraphEdge) : (compiled edge).isJson = true := by
  rw [compiled, EdgeEvaluator.compileCondition]
  cases EdgeEvaluator.parse edge.condition with
  | none => rfl
  | some term => exact term.isJson_toSerializable

theorem isJson_modelDump {spec : FlowGraphNodeSpec}
    (json : ∀ cfg ∈ spec.config, (Value.dict cfg).isJson = true) :
    spec.modelDump.isJson = true := by
  rw [FlowGraphNodeSpec.modelDump, isJson_dict]
  refine ⟨by simp [keys], ?_⟩
  simp only [List.forall_mem_cons]
  refine ⟨rfl, ?_, List.forall_mem_nil _⟩
  cases cfg : spec.config with
  | none => rfl
  | some fields => exact json fields cfg

theorem isJson_documentOf (json : first.jsonConfigs = true) : (documentOf first).isJson = true := by
  rw [documentOf, isJson_dict]
  refine ⟨by simp [keys], ?_⟩
  simp only [List.forall_mem_cons]
  refine ⟨rfl, ?_, ?_, rfl, List.forall_mem_nil _⟩
  · rw [isJson_dict, keys, List.map_map]
    refine ⟨first.distinct, fun entry mem => ?_⟩
    obtain ⟨node, inside, rfl⟩ := List.mem_map.mp mem
    exact isJson_modelDump (first.isJson_config json inside)
  · rw [isJson_list]
    intro val mem
    obtain ⟨edge, -, rfl⟩ := List.mem_map.mp mem
    rw [SnapshotEdge.document, isJson_dict]
    refine ⟨by simp [keys], ?_⟩
    simp only [List.forall_mem_cons]
    exact ⟨rfl, rfl, rfl, rfl, isJson_compiled edge, List.forall_mem_nil _⟩

end FlowGraphCompiler

open FlowGraphCompiler (hashInput)

/-- The text that is hashed and the graph determine each other. -/
theorem hashInput_eq_iff (libraries : DraftLibraries) (format : FloatFormat)
    (first second : FlowGraphDefinition)
    (accepted : validate libraries first = .ok ())
    (accepted' : validate libraries second = .ok ())
    (json : first.jsonConfigs = true) (json' : second.jsonConfigs = true) :
    (∃ text, hashInput format first = some text ∧ hashInput format second = some text) ↔
      first.SameGraph second := by
  have input {definition : FlowGraphDefinition}
      (accepted : validate libraries definition = .ok ()) :
      hashInput format definition = (FlowGraphCompiler.documentOf definition).dumps format := by
    rw [hashInput, FlowGraphCompiler.document_eq_some
      (FlowGraphDraftValidator.validated_of_validate accepted),
      Option.bind_some]
  have isJson := FlowGraphCompiler.isJson_documentOf json
  have isJson' := FlowGraphCompiler.isJson_documentOf json'
  have exclusive := FlowGraphDraftValidator.exclusive_of_validate accepted
  rw [← FlowGraphCompiler.sortKeys_documentOf_iff json
      (FlowGraphDraftValidator.distinct_of_validateMutualExclusion exclusive),
    Value.sortKeys_eq_iff isJson, ← Value.dumps_eq_iff isJson isJson', input accepted,
      input accepted']
  constructor
  · rintro ⟨text, here, there⟩
    rw [here, there]
  · intro same
    have written := Value.dumps_of_isJson format isJson
    exact ⟨_, written, same ▸ written⟩

/-! ## A float format -/

def fractionText : PyFloat → List Char
  | none => ['-', 'I', 'n', 'f', 'i', 'n', 'i', 't', 'y']
  | some none => ['I', 'n', 'f', 'i', 'n', 'i', 't', 'y']
  | some (some q) => q.num.repr.toList ++ 'e' :: (q.den : ℤ).repr.toList

theorem letter_notMem_repr {c} (letter : c.isDigit = false) (other : c ≠ '-') (i : ℤ) :
    c ∉ i.repr.toList := by
  intro mem
  rcases Value.repr_numeral i c mem with digit | sign
  · rw [letter] at digit
    cases digit
  · exact other sign

theorem fractionText_injective : Function.Injective fractionText := by
  have finite (q : ℚ) : 'I' ∉ fractionText (some (some q)) := by
    simp [fractionText, letter_notMem_repr]
  intro x y eq
  match x, y with
  | none, none => rfl
  | none, some none => cases eq
  | none, some (some q) => exact absurd (eq ▸ List.mem_cons_of_mem _ List.mem_cons_self) (finite q)
  | some none, none => cases eq
  | some none, some none => rfl
  | some none, some (some q) => exact absurd (eq ▸ List.mem_cons_self) (finite q)
  | some (some q), none => exact absurd (eq ▸ List.mem_cons_of_mem _ List.mem_cons_self) (finite q)
  | some (some q), some none => exact absurd (eq ▸ List.mem_cons_self) (finite q)
  | some (some q), some (some r) =>
    have free (i : ℤ) : 'e' ∉ i.repr.toList := letter_notMem_repr rfl (by decide) i
    obtain ⟨num, -, den⟩ := (List.append_cons_inj_of_notMem (free _) (free _)).mp eq
    have sameNum := Int.repr_injective (String.toList_inj.mp num)
    have sameDen := Int.repr_injective (String.toList_inj.mp den)
    rw [Rat.ext sameNum (Int.ofNat.inj sameDen)]

variable (x : PyFloat)

theorem fractionText_letter : 'I' ∈ fractionText x ∨ 'e' ∈ fractionText x := by
  match x with
  | none => exact .inl (List.mem_cons_of_mem _ List.mem_cons_self)
  | some none => exact .inl List.mem_cons_self
  | some (some q) => exact .inr (List.mem_append_right _ List.mem_cons_self)

theorem isFloatCharacter_fractionText : ∀ c ∈ fractionText x, isFloatCharacter c = true := by
  have digits (i : ℤ) : ∀ c ∈ i.repr.toList, isFloatCharacter c = true := by
    intro c mem
    rcases Value.repr_numeral i c mem with digit | rfl
    · rw [isFloatCharacter, digit, Bool.true_or]
    · rfl
  rcases x with - | - | q
  · exact List.all_eq_true.mp rfl
  · exact List.all_eq_true.mp rfl
  · intro c mem
    rw [fractionText, List.mem_append, List.mem_cons] at mem
    rcases mem with numerator | rfl | denominator
    · exact digits _ c numerator
    · rfl
    · exact digits _ c denominator

def oneHalf : PyFloat := ((1 / 2 : ℚ) : PyFloat)

/-- One half as `repr` writes it, the other floats as fractions. -/
def plainText : List Char := if x = oneHalf then ['0', '.', '5'] else fractionText x

theorem fractionText_ne_decimal : fractionText x ≠ ['0', '.', '5'] := by
  intro same
  rcases fractionText_letter x with member | member
  · exact absurd (same ▸ member) (by decide)
  · exact absurd (same ▸ member) (by decide)

theorem plainText_injective : Function.Injective plainText := by
  intro x y same
  unfold plainText at same
  split at same <;> split at same
  · rename_i first second
    exact first.trans second.symm
  · exact absurd same.symm (fractionText_ne_decimal y)
  · exact absurd same (fractionText_ne_decimal x)
  · exact fractionText_injective same

theorem plainText_symbol : '.' ∈ plainText x ∨ 'I' ∈ plainText x ∨ 'e' ∈ plainText x := by
  unfold plainText
  split
  · exact .inl (by decide)
  · exact .inr (fractionText_letter x)

def plainFormat : FloatFormat where
  text := plainText
  injective := plainText_injective
  nonempty x := by
    rcases plainText_symbol x with member | member | member <;> exact List.ne_nil_of_mem member
  characters x := by
    unfold plainText
    split
    · exact List.all_eq_true.mp rfl
    · exact isFloatCharacter_fractionText x
  notInteger x i := by
    intro same
    rcases plainText_symbol x with member | member | member <;>
      exact letter_notMem_repr rfl (by decide) i (same ▸ member)

def routedResponse : FlowGraphDefinition :=
  { startNode := "classify"
    nodes := [
      ("classify", ⟨"IntentClassifier", some [("threshold", .float oneHalf), ("top", .int 3)]⟩),
      ("respond", ⟨"ResponseBuilder", none⟩), ("escalate", ⟨"HumanFallback", none⟩)]
    edges := [⟨"classify", "respond", "score == 1", .normal, by decide⟩,
      ⟨"classify", "escalate", "score == 2", .normal, by decide⟩]
    distinct := by decide }

/-- The same graph, written in another order. -/
def reorderedResponse : FlowGraphDefinition :=
  { startNode := "classify"
    nodes := [("escalate", ⟨"HumanFallback", none⟩), ("respond", ⟨"ResponseBuilder", none⟩),
      ("classify", ⟨"IntentClassifier", some [("top", .int 3), ("threshold", .float oneHalf)]⟩)]
    edges := [⟨"classify", "escalate", "score == 2", .normal, by decide⟩,
      ⟨"classify", "respond", "score == 1", .normal, by decide⟩]
    distinct := by decide }

theorem reorderedResponse_same_address : validate lenientLibraries routedResponse = .ok () ∧
      validate lenientLibraries reorderedResponse = .ok () ∧
      ∃ text, hashInput plainFormat routedResponse = some text ∧
        hashInput plainFormat reorderedResponse = some text := by
  have accepted : validate lenientLibraries routedResponse = .ok () := by
    decide +kernel
  have accepted' : validate lenientLibraries reorderedResponse = .ok () := by
    decide +kernel
  refine ⟨accepted, accepted', (hashInput_eq_iff lenientLibraries plainFormat routedResponse
    reorderedResponse accepted accepted' (by decide +kernel) (by decide +kernel)).mpr
      ⟨rfl, fun key => ?_, ?_⟩⟩
  · rw [routedResponse, reorderedResponse]
    by_cases classify : key = "classify"
    · subst classify
      exact .some ⟨rfl, .some (.reorder (.swap _ _ _))⟩
    · by_cases respond : key = "respond"
      · subst respond
        exact .some ⟨rfl, .none⟩
      · by_cases escalate : key = "escalate"
        · subst escalate
          exact .some ⟨rfl, .none⟩
        · simp [List.lookup_cons, beq_false_of_ne classify, beq_false_of_ne respond,
            beq_false_of_ne escalate]
  · exact .swap _ _ _

end AgentOrchestration
