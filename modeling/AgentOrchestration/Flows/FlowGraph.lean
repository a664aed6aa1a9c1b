import AgentOrchestration.Library.Checks
import AgentOrchestration.EdgeEvaluator.Grammar
import AgentOrchestration.GraphRuntime.GraphCompiler

/-!
# Flow graph drafts

A flow graph is written as a `FlowGraphDefinition`. `FlowGraphDraftValidator.validate`
decides whether a draft may be stored as valid, and `FlowGraphCompiler.compile` turns
a stored draft into the snapshot that `GraphCompiler.compile` reads at run time.
-/

namespace AgentOrchestration

set_option autoImplicit false

open Checks (require each require_ne andThen_ne each_ne require_ok_iff)

/-! ## Definitions -/

structure FlowGraphNodeSpec where
  type : String
  config : Option Fields
  deriving DecidableEq

/-- `FlowGraphEdge`; its field validator refuses a blank condition. -/
structure FlowGraphEdge where
  fromNode : String
  toNode : String
  condition : String
  edgeKind : EdgeKind
  conditionRequired : strip condition ≠ []
  deriving DecidableEq

/-- `FlowGraphDefinition`; `nodes` is a dictionary. -/
structure FlowGraphDefinition where
  startNode : String
  nodes : List (String × FlowGraphNodeSpec)
  edges : List FlowGraphEdge
  distinct : (nodes.map Prod.fst).Nodup
  deriving DecidableEq

namespace FlowGraphDefinition

variable (definition : FlowGraphDefinition)

def nodeKeys : List String := definition.nodes.map Prod.fst

def edgesFrom (nodeId : String) : List FlowGraphEdge :=
  definition.edges.filter fun edge => edge.fromNode = nodeId

def nexts (nodeId : String) : List String := ((definition.edgesFrom nodeId).map (·.toNode)).dedup

theorem mem_nexts {nodeId next : String} : next ∈ definition.nexts nodeId ↔
      ∃ edge ∈ definition.edges, edge.fromNode = nodeId ∧ edge.toNode = next := by
  simp only [nexts, edgesFrom, List.mem_dedup, List.mem_map, List.mem_filter, decide_eq_true_eq]
  constructor
  · rintro ⟨edge, ⟨member, source⟩, target⟩
    exact ⟨edge, member, source, target⟩
  · rintro ⟨edge, member, source, target⟩
    exact ⟨edge, ⟨member, source⟩, target⟩

end FlowGraphDefinition

inductive DraftError where
  | deprecatedNodeType
  | startNodeNotFound
  | edgeReferencesUnknownNode
  | edgeConditionRequired
  | unreachableNodes
  | noTerminalNodes
  | noTerminalPath
  | ragPipelineConfigInvalid
  | multipleMemoryCommitNodes
  | memoryCommitDataMergeRuleInvalid
  | memoryCommitDataMergeUnknownFromNode
  /-- `fid not in nodes` raises a `TypeError`. -/
  | unhashable
  | nodeConfigInvalid (nodeId type : String)
  | edgeConditionInvalid (condition : String)
  | edgeConditionDuplicate
  | edgeConditionNotMutuallyExclusive
  | cycleNotMarkedLoop
  | outOfFuel
  deriving DecidableEq, Repr

/-- The message of a `DomainValidationException`. -/
def DraftError.message : DraftError → Option String
  | .deprecatedNodeType => some "deprecated_node_type_user_context_enrichment"
  | .startNodeNotFound => some "start_node_not_found"
  | .edgeReferencesUnknownNode => some "edge_references_unknown_node"
  | .edgeConditionRequired => some "edge_condition_required"
  | .unreachableNodes => some "unreachable_nodes"
  | .noTerminalNodes => some "no_terminal_nodes"
  | .noTerminalPath => some "no_terminal_path"
  | .ragPipelineConfigInvalid => some "rag_pipeline_config_invalid"
  | .multipleMemoryCommitNodes => some "multiple_memory_commit_nodes"
  | .memoryCommitDataMergeRuleInvalid => some "memory_commit_data_merge_rule_invalid"
  | .memoryCommitDataMergeUnknownFromNode => some "memory_commit_data_merge_unknown_from_node"
  | .nodeConfigInvalid _ _ => some "node_config_invalid"
  | .edgeConditionInvalid _ => some "edge_condition_invalid"
  | .edgeConditionDuplicate => some "edge_condition_duplicate"
  | .edgeConditionNotMutuallyExclusive => some "edge_condition_not_mutually_exclusive"
  | .cycleNotMarkedLoop => some "cycle_not_marked_loop"
  | .unhashable => none
  | .outOfFuel => none

/-! ## `FlowGraphValidator` -/

namespace FlowGraphValidator

def deprecatedNodeTypes : List String := ["UserContextEnrichmentNode"]

def ragPipelineNodeTypes : List String :=
  ["IntentClassifier", "ToolResolver", "ToolInputFiller", "ResponseBuilder", "HumanFallback"]

variable (definition : FlowGraphDefinition)

def terminals : List String :=
  (definition.nodes.filter fun entry => entry.2.type ∈ NodeType.terminalNodeTypes).map Prod.fst

/-- `has_terminal_path`; the nodes on the way are not entered again. -/
def hasTerminalPath (definition : FlowGraphDefinition) : ℕ → String → List String → Option Bool
  | 0, _, _ => none
  | fuel + 1, nodeId, seen =>
    if nodeId ∈ seen then some false
    else if nodeId ∈ terminals definition then some true
    else (definition.nexts nodeId).anyM fun next =>
      hasTerminalPath definition fuel next (nodeId :: seen)

def validateReachability : Except DraftError Unit :=
  match DepthFirst.explore definition.nexts (definition.edges.length + 2) definition.startNode []
  with
  | none => .error .outOfFuel
  | some visited =>
    require (visited ⊆ definition.nodeKeys ∧ definition.nodeKeys ⊆ visited) .unreachableNodes

def validateTermination : Except DraftError Unit := do
  require (terminals definition ≠ []) .noTerminalNodes
  match hasTerminalPath definition (definition.edges.length + 2) definition.startNode [] with
  | none => .error .outOfFuel
  | some found => require (found = true) .noTerminalPath

variable (spec : FlowGraphNodeSpec)

/-- `(spec.config or {}).get(key)`. -/
def configValue (key : String) : Value := ((spec.config.getD []).lookup key).getD .null

/-- `rag_pipeline` is absent or a dictionary. -/
def validateRagPipeline : Except DraftError Unit :=
  if spec.type ∈ ragPipelineNodeTypes then
    let ragPipeline := configValue spec "rag_pipeline"
    require (ragPipeline = .null ∨ ragPipeline.asDict?.isSome) .ragPipelineConfigInvalid
  else .ok ()

/-- One rule of `data_merge` names a node. -/
def validateDataMergeRule (rule : Value) : Except DraftError Unit :=
  match rule with
  | .dict fields =>
    match (fields.lookup "from_node_id").getD .null with
    | .str nodeId =>
      require (nodeId ≠ "" ∧ nodeId ∈ definition.nodeKeys) .memoryCommitDataMergeUnknownFromNode
    -- an empty list or dictionary is not looked up
    | .list (_ :: _) => .error .unhashable
    | .dict (_ :: _) => .error .unhashable
    | _ => .error .memoryCommitDataMergeUnknownFromNode
  | _ => .error .memoryCommitDataMergeRuleInvalid

/-- The rules of `data_merge` of a memory commit node. -/
def validateMemoryCommit : Except DraftError Unit :=
  if spec.type = "MemoryCommitNode" then
    match configValue spec "data_merge" with
    | .list rules => each (validateDataMergeRule definition) rules
    | _ => .ok ()
  else .ok ()

def memoryCommitIds : List String :=
  (definition.nodes.filter fun entry => entry.2.type = "MemoryCommitNode").map Prod.fst

def validateEdge (edge : FlowGraphEdge) :
    Except DraftError Unit := do
  require (edge.fromNode ∈ definition.nodeKeys ∧ edge.toNode ∈ definition.nodeKeys)
    .edgeReferencesUnknownNode
  require (strip edge.condition ≠ []) .edgeConditionRequired

def validate : Except DraftError Unit := do
  each (fun entry => require (entry.2.type ∉ deprecatedNodeTypes) .deprecatedNodeType)
    definition.nodes
  require (definition.startNode ∈ definition.nodeKeys) .startNodeNotFound
  each (validateEdge definition) definition.edges
  validateReachability definition
  validateTermination definition
  each (fun entry => validateRagPipeline entry.2) definition.nodes
  require ((memoryCommitIds definition).length ≤ 1) .multipleMemoryCommitNodes
  each (fun entry => validateMemoryCommit definition entry.2) definition.nodes

end FlowGraphValidator

/-! ## `FlowGraphDraftValidator` -/

inductive NodeConfigSchema where
  | llmNodeConfigWrapper
  | queryClarifierNodeConfig
  | moderationNodeConfig
  | memoryCommitNodeConfig
  | contextSummarizerNodeConfig
  | toolExecutorNodeConfig
  deriving DecidableEq, Repr

def NodeConfigSchema.ofType (nodeType : String) : Option NodeConfigSchema :=
  if nodeType ∈ ["IntentClassifier", "ToolResolver", "ToolInputFiller", "ResponseBuilder",
      "HumanFallback"] then some .llmNodeConfigWrapper
  else if nodeType = "QueryClarifier" then some .queryClarifierNodeConfig
  else if nodeType = "ContentModeration" then some .moderationNodeConfig
  else if nodeType = "MemoryCommitNode" then some .memoryCommitNodeConfig
  else if nodeType = "ContextSummarizer" then some .contextSummarizerNodeConfig
  else if nodeType = "ToolExecutor" then some .toolExecutorNodeConfig
  else none

/-- A Python expression, as far as the search for constant conditions looks at it. -/
inductive PyExpr where
  | constant (value : Value)
  | unaryNot (operand : PyExpr)
  | boolAnd (values : List PyExpr)
  | boolOr (values : List PyExpr)
  | compare (left : PyExpr) (operators : List String) (comparators : List PyExpr)
  | other

structure DraftLibraries where
  /-- `ast.parse(text, mode="eval").body`; `none` where it raises. -/
  parsePython : String → Option PyExpr
  /-- A comparison of two constants; `none` where it raises. -/
  compareConstants : Value → String → Value → Option Value
  /-- `schema.model_validate(config)` returns. -/
  modelValidate : NodeConfigSchema → Fields → Bool

namespace FlowGraphDraftValidator

variable (libraries : DraftLibraries)

/-- `validate_node_config` returns. -/
def validNodeConfig (spec : FlowGraphNodeSpec) : Bool :=
  match spec.config, NodeConfigSchema.ofType spec.type with
  | some config, some schema => libraries.modelValidate schema config
  | _, _ => true

variable (definition : FlowGraphDefinition)

def validateNodeConfigs : Except DraftError Unit :=
  each (fun entry => require (validNodeConfig libraries entry.2 = true)
    (.nodeConfigInvalid entry.1 entry.2.type)) definition.nodes

variable (edges : List FlowGraphEdge)

def validateEdgeSyntax : Except DraftError Unit :=
  each (fun edge => require ((EdgeEvaluator.compileCondition edge.condition).isSome = true)
    (.edgeConditionInvalid edge.condition)) edges

mutual

/-- `_is_constant_true`; `none` where it raises. -/
def isConstantTrue : PyExpr → Option Bool
  | .constant value => some value.truthy
  | .unaryNot operand => (isConstantTrue operand).map not
  | .boolAnd values => allConstantTrue values
  | .boolOr values => anyConstantTrue values
  | .compare (.constant left) [operator] [.constant right] =>
    (libraries.compareConstants left operator right).map fun result => result = .bool true
  | .compare _ _ _ => some false
  | .other => some false

/-- `all(...)` stops at the first that is not constantly true. -/
def allConstantTrue : List PyExpr → Option Bool
  | [] => some true
  | value :: rest =>
    match isConstantTrue value with
    | some true => allConstantTrue rest
    | result => result

/-- `any(...)` stops at the first that is constantly true. -/
def anyConstantTrue : List PyExpr → Option Bool
  | [] => some false
  | value :: rest =>
    match isConstantTrue value with
    | some false => anyConstantTrue rest
    | result => result

end

/-- `text.replace(cc, replacement)` for a doubled character. -/
def replaceDoubled (c : Char) (replacement : List Char) : List Char → List Char
  | first :: second :: rest =>
    if first = c ∧ second = c then replacement ++ replaceDoubled c replacement rest
    else first :: replaceDoubled c replacement (second :: rest)
  | short => short

def pythonText (condition : String) : String :=
  String.ofList
    (replaceDoubled '|' " or ".toList (replaceDoubled '&' " and ".toList condition.toList))

/-- `_has_always_true`; a condition on which the analysis raises is passed over. -/
def hasAlwaysTrue : Bool :=
  edges.any fun edge =>
    ((libraries.parsePython (pythonText edge.condition)).bind (isConstantTrue libraries)).getD false

/-- `by_from[edge.from_node].append(edge)`. -/
def addByFrom (byFrom : List (String × List FlowGraphEdge)) (edge : FlowGraphEdge) :
    List (String × List FlowGraphEdge) :=
  OrderedDict.set byFrom edge.fromNode ((byFrom.lookup edge.fromNode).getD [] ++ [edge])

/-- The edges out of one node exclude each other. -/
def validateGroup : Except DraftError Unit :=
  if edges.length < 2 then .ok ()
  else do
    require (edges.map (·.condition)).Nodup .edgeConditionDuplicate
    require (hasAlwaysTrue libraries edges = false) .edgeConditionNotMutuallyExclusive

def validateMutualExclusion : Except DraftError Unit :=
  each (fun group => validateGroup libraries group.2) (edges.foldl addByFrom [])

/-- `edge_kind_map`: of parallel edges the last one counts. -/
def edgeKindMap : List ((String × String) × EdgeKind) :=
  edges.foldl (fun kinds edge => OrderedDict.set kinds (edge.fromNode, edge.toNode) edge.edgeKind)
    []

def successors (nodeId : String) : List (String × Bool) :=
  (definition.edgesFrom nodeId).map fun edge =>
    (edge.toNode, decide ((edgeKindMap definition.edges).lookup (nodeId, edge.toNode) = some .loop))

def validateCycles : Except DraftError Unit :=
  match DepthFirst.check (successors definition) (definition.edges.length + 2)
      definition.startNode DepthFirst.Search.empty with
  | .ok _ => .ok ()
  | .error .unmarkedCycle => .error .cycleNotMarkedLoop
  | .error .outOfFuel => .error .outOfFuel

def validate (definition : FlowGraphDefinition) : Except DraftError Unit := do
  FlowGraphValidator.validate definition
  validateNodeConfigs libraries definition
  validateEdgeSyntax definition.edges
  validateMutualExclusion libraries definition.edges
  validateCycles definition

end FlowGraphDraftValidator

/-! ## `FlowGraphCompiler` -/

def EdgeKind.value : EdgeKind → String
  | .normal => "NORMAL"
  | .loop => "LOOP"

theorem EdgeKind.ofName_value (kind : EdgeKind) : EdgeKind.ofName kind.value = some kind := by
  cases kind <;> rfl

namespace FlowGraphCompiler

def sortKey (edge : FlowGraphEdge) : String ×ₗ String ×ₗ String :=
  toLex (edge.fromNode, toLex (edge.toNode, edge.condition))

/-- `sorted(edges, key=…)`. -/
def sortEdges (edges : List FlowGraphEdge) : List FlowGraphEdge :=
  edges.insertionSort fun first second => sortKey first ≤ sortKey second

def compileEdge (edge : FlowGraphEdge) : Option SnapshotEdge :=
  (EdgeEvaluator.compileCondition edge.condition).map fun compiled =>
    { fromNode := edge.fromNode, toNode := edge.toNode, edgeKind := some edge.edgeKind.value
      condition := some edge.condition, compiledCondition := some compiled }

def dumpNode (spec : FlowGraphNodeSpec) : NodeSpec :=
  { type := some spec.type
    resumeToNodeId := ((spec.config.getD []).lookup "resume_to_node_id").bind Value.asStr? }

/-- `FlowGraphCompiler.compile`; `none` where the compilation of a condition raises. -/
def compile (definition : FlowGraphDefinition) : Option GraphSnapshot :=
  ((sortEdges definition.edges).mapM compileEdge).map fun edges =>
    { startNode := some definition.startNode
      nodes := definition.nodes.map fun entry => (entry.1, dumpNode entry.2)
      edges }

end FlowGraphCompiler

/-! ## Fuel -/

namespace FlowGraphValidator

variable (definition : FlowGraphDefinition)

theorem nexts_subset (nodeId : String) : definition.nexts nodeId ⊆ definition.edges.map
    (·.toNode) := by
  intro next member
  obtain ⟨edge, inside, -, rfl⟩ := definition.mem_nexts.mp member
  exact List.mem_map_of_mem inside

theorem anyM_isSome {α : Type} {found : α → Option Bool} :
    ∀ {items : List α}, (∀ item ∈ items, ∃ b, found item = some b) → ∃ b,
      items.anyM found = some b := by
  intro items
  induction items with
  | nil => exact fun _ => ⟨false, rfl⟩
  | cons item rest ih =>
    intro each
    obtain ⟨b, here⟩ := each item List.mem_cons_self
    rw [List.anyM, here]
    cases b with
    | true => exact ⟨true, rfl⟩
    | false => exact ih (List.forall_mem_cons.mp each).2

theorem hasTerminalPath_isSome {U : Finset String}
    (closed : DepthFirst.Closed definition.nexts (· ∈ U)) :
    ∀ (fuel : ℕ) (nodeId : String) (seen : List String), nodeId ∈ U →
      (U \ seen.toFinset).card < fuel →
      ∃ found, hasTerminalPath definition fuel nodeId seen = some found := by
  intro fuel
  induction fuel with
  | zero => exact fun nodeId seen _ impossible => absurd impossible (Nat.not_lt_zero _)
  | succ fuel ih =>
    intro nodeId seen isIn enough
    rw [hasTerminalPath]
    split
    · exact ⟨false, rfl⟩
    · rename_i new
      split
      · exact ⟨true, rfl⟩
      · refine anyM_isSome fun next mem => ih next _ (closed nodeId isIn next mem) ?_
        exact (DepthFirst.card_left_cons isIn new).trans_le (Nat.le_of_lt_succ enough)

theorem validateReachability_ne_outOfFuel :
    validateReachability definition ≠ .error .outOfFuel := by
  obtain ⟨visited, explored⟩ :=
    DepthFirst.explore_entered (nexts_subset definition) definition.startNode
  rw [List.length_map] at explored
  rw [validateReachability, explored]
  exact require_ne nofun

theorem hasTerminalPath_start : ∃ found,
    hasTerminalPath definition (definition.edges.length + 2) definition.startNode [] = some found :=
  hasTerminalPath_isSome definition
    (DepthFirst.closed_entered (nexts_subset definition) definition.startNode) _ _ []
    (Finset.mem_insert_self _ _)
    (by simpa using DepthFirst.card_entered definition.startNode (definition.edges.map (·.toNode)))

theorem validateTermination_ne_outOfFuel : validateTermination definition ≠ .error .outOfFuel := by
  obtain ⟨found, searched⟩ := hasTerminalPath_start definition
  refine andThen_ne (require_ne nofun) fun _ => ?_
  rw [searched]
  exact require_ne nofun

theorem validateDataMergeRule_ne_outOfFuel (rule : Value) :
    validateDataMergeRule definition rule ≠ .error .outOfFuel := by
  unfold validateDataMergeRule
  split
  · split
    · exact require_ne nofun
    all_goals exact nofun
  · exact nofun

theorem validate_ne_outOfFuel : validate definition ≠ .error .outOfFuel := by
  refine andThen_ne (each_ne fun _ _ => require_ne nofun) fun _ => ?_
  refine andThen_ne (require_ne nofun) fun _ => ?_
  refine andThen_ne (each_ne fun edge _ => ?_) fun _ => ?_
  · exact andThen_ne (require_ne nofun) fun _ => require_ne nofun
  refine andThen_ne (validateReachability_ne_outOfFuel definition) fun _ => ?_
  refine andThen_ne (validateTermination_ne_outOfFuel definition) fun _ => ?_
  refine andThen_ne (each_ne fun entry _ => ?_) fun _ => ?_
  · unfold validateRagPipeline
    split
    · exact require_ne nofun
    · exact nofun
  refine andThen_ne (require_ne nofun) fun _ => each_ne fun entry _ => ?_
  unfold validateMemoryCommit
  split
  · split
    · exact each_ne fun rule _ => validateDataMergeRule_ne_outOfFuel definition rule
    · exact nofun
  · exact nofun

end FlowGraphValidator

namespace FlowGraphDraftValidator

theorem targets_successors (flow : FlowGraphDefinition) (nodeId : String) :
    DepthFirst.targets (successors flow) nodeId ⊆ flow.edges.map (·.toNode) := by
  intro target mem
  rw [DepthFirst.targets, successors, List.map_map] at mem
  obtain ⟨edge, inside, rfl⟩ := List.mem_map.mp mem
  exact List.mem_map_of_mem (List.mem_filter.mp inside).1

theorem validate_ne_outOfFuel (libs flow) : validate libs flow ≠ .error .outOfFuel := by
  refine andThen_ne (FlowGraphValidator.validate_ne_outOfFuel flow) fun _ => ?_
  refine andThen_ne (each_ne fun _ _ => require_ne nofun) fun _ => ?_
  refine andThen_ne (each_ne fun _ _ => require_ne nofun) fun _ => ?_
  refine andThen_ne (each_ne fun group _ => ?_) fun _ => ?_
  · unfold validateGroup
    split
    · exact nofun
    · exact andThen_ne (require_ne nofun) fun _ => require_ne nofun
  · have enough :=
      DepthFirst.check_entered (targets_successors flow) flow.startNode
    rw [List.length_map] at enough
    unfold validateCycles
    split
    · exact nofun
    · exact nofun
    · rename_i empty
      exact absurd empty enough

/-! ## What is accepted -/

/-- What the runtime can rely on in a draft that was accepted. -/
structure Validated (definition : FlowGraphDefinition) : Prop where
  start : definition.startNode ∈ definition.nodeKeys
  reached : ∃ visited, DepthFirst.explore definition.nexts (definition.edges.length + 2)
      definition.startNode [] = some visited ∧
    visited ⊆ definition.nodeKeys ∧ definition.nodeKeys ⊆ visited
  terminal : FlowGraphValidator.terminals definition ≠ []
  conditions : ∀ edge ∈ definition.edges, ∃ term, EdgeEvaluator.parse edge.condition = some term

theorem validated_of_validate {libs flow} (accepted : validate libs flow = .ok ()) :
    Validated flow := by
  simp only [validate, FlowGraphValidator.validate, Checks.andThen_ok_iff,
    require_ok_iff] at accepted
  obtain ⟨⟨-, start, -, reachable, termination, -⟩, -, conditions, -⟩ := accepted
  refine ⟨start, ?_, ?_, fun edge mem => ?_⟩
  · unfold FlowGraphValidator.validateReachability at reachable
    split at reachable
    · cases reachable
    · rename_i visited explored
      exact ⟨visited, explored, require_ok_iff.mp reachable⟩
  · exact require_ok_iff.mp (Checks.andThen_ok_iff.mp termination).1
  · have compiles := require_ok_iff.mp (Checks.each_ok_iff.mp conditions edge mem)
    rw [EdgeEvaluator.compileCondition, Option.isSome_map] at compiles
    exact Option.isSome_iff_exists.mp compiles

end FlowGraphDraftValidator

end AgentOrchestration
