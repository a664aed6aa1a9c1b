import AgentOrchestration.Flows.FlowsService

/-!
# Invariants of the flow authoring service

Most steps of an operation only read. What an operation writes it writes by a few
functions of the repository, so an invariant that those keep is kept by every call.
-/

namespace AgentOrchestration.FlowsService

set_option autoImplicit false

open Execution (ServiceError FlowVersionRow)
open Program (Keeps Triple)

/-! ## Checks only read -/

variable {I : Tables → Prop} {libraries : Libraries} {env : Environment} {tenantId : ℕ}

section

theorem keeps_ofExcept {α : Type} (verdict : Except ServiceError α) :
    Keeps I (ofExcept verdict) := by
  cases verdict with
  | ok val => exact .pure val
  | error err => exact .throw err

theorem keeps_ofValidator (verdict : Except DraftError Unit) : Keeps I (ofValidator verdict) := by
  cases verdict with
  | ok val => exact .pure _
  | error err => exact .throw _

/-- Looking up the caller's flow writes nothing. -/
theorem keeps_tenantFlow (flowId : ℕ) : Keeps I (tenantFlow tenantId flowId) :=
  .bind .get fun _ => .bind (.ofOption _ _) fun _ => .bind (.raiseIf _ _) fun _ => .pure _

variable (flowId flowVersionId : ℕ)

theorem keeps_flowVersion : Keeps I (flowVersion flowId flowVersionId) :=
  .bind .get fun _ => .bind (.ofOption _ _) fun _ => .bind (.raiseIf _ _) fun _ => .pure _

/-- Requiring a published version writes nothing. -/
theorem keeps_publishedVersion : Keeps I (publishedVersion tenantId flowId flowVersionId) :=
  .bind (keeps_tenantFlow _) fun _ => .bind (keeps_flowVersion _ _) fun _ =>
    .bind (.raiseIf _ _) fun _ => .pure _

theorem keeps_assertNoSecondMemoryWrite (flowVersionId : ℕ) (allow : Bool) :
    Keeps I (assertNoSecondMemoryWrite flowVersionId allow) :=
  .bind .get fun _ => .raiseIf _ _

theorem keeps_assertAtMostOneMemoryWrite (flowVersionId : ℕ) :
    Keeps I (assertAtMostOneMemoryWrite flowVersionId) :=
  .bind .get fun _ => .raiseIf _ _

theorem keeps_insertable (node : NewNode) : Keeps I (insertable env node) :=
  .bind (.raiseIf _ _) fun _ => .bind (.raiseIf _ _) fun _ => .pure _

/-- Making the node of `create_node` writes nothing. -/
theorem keeps_plainNode (req : NodeCreate) : Keeps I (plainNode env tenantId req) :=
  .bind .get fun _ => .bind (.ofOption _ _) fun _ => .bind (keeps_tenantFlow _) fun _ =>
    .bind (keeps_assertNoSecondMemoryWrite _ _) fun _ => keeps_insertable _

theorem keeps_requestedTemplate (req : NodeTemplateCopyRequest) :
    Keeps I (requestedTemplate env req) := by
  unfold requestedTemplate
  split
  · exact .pure _
  · exact .throw _
  · exact .bind (.raiseIf _ _) fun _ => .bind (.ofOption _ _) fun _ => .pure _

/-- Making the node of a template writes nothing. -/
theorem keeps_templateNode (req : NodeTemplateCopyRequest) :
    Keeps I (templateNode libraries env tenantId flowId flowVersionId req) :=
  .bind (.raiseIf _ _) fun _ => .bind (keeps_requestedTemplate _) fun _ =>
    .bind (keeps_tenantFlow _) fun _ => .bind (keeps_flowVersion _ _) fun _ =>
    .bind (.ofOption _ _) fun _ => .bind (.raiseIf _ _) fun _ => .bind (.raiseIf _ _) fun _ =>
    .bind (.raiseIf _ _) fun _ => .bind (.ofOption _ _) fun _ =>
    .bind (keeps_assertNoSecondMemoryWrite _ _) fun _ => keeps_insertable _

theorem keeps_customNode (req : CustomNodeCreate) :
    Keeps I (customNode libraries env tenantId flowId flowVersionId req) :=
  .bind (.raiseIf _ _) fun _ => .bind (keeps_tenantFlow _) fun _ =>
    .bind (keeps_flowVersion _ _) fun _ => .bind (.raiseIf _ _) fun _ =>
    .bind (keeps_assertNoSecondMemoryWrite _ _) fun _ => keeps_insertable _

/-- Looking up the flow of a node writes nothing. -/
theorem keeps_tenantNode (flowVersionId : ℕ) : Keeps I (tenantNode tenantId flowVersionId) :=
  .bind .get fun _ => .bind (.ofOption _ _) fun _ => .bind (keeps_tenantFlow _) fun _ => .pure _

theorem keeps_draftToSave (req : FlowGraphDraftCreate) : Keeps I (draftToSave tenantId req) :=
  .bind (keeps_tenantFlow _) fun _ => .bind (keeps_flowVersion _ _) fun _ => keeps_ofValidator _

/-- The checks of a draft that is to be validated write nothing. -/
theorem keeps_draftToValidate (req : FlowGraphCompileRequest) :
    Keeps I (draftToValidate libraries tenantId req) :=
  .bind (keeps_tenantFlow _) fun _ => .bind .get fun _ => .bind (.ofOption _ _) fun _ =>
    .bind (keeps_ofValidator _) fun _ => keeps_assertAtMostOneMemoryWrite _

theorem keeps_resolveFrozenRag (flowVersionId : ℕ) :
    Keeps I (resolveFrozenRag libraries env tenantId flowVersionId) :=
  .ite (.pure _) (.bind .get fun _ => .bind (keeps_ofExcept _) fun _ => keeps_ofExcept _)

/-- Validating and compiling a posted graph writes nothing. -/
theorem keeps_composedGraph (req : DeploymentComposeRequest) :
    Keeps I (composedGraph libraries req) :=
  .bind (.ofOption _ _) fun _ => .bind (keeps_ofValidator _) fun _ =>
    .bind (keeps_assertAtMostOneMemoryWrite _) fun _ => keeps_ofExcept _

end

/-! ## What the checks return -/

/-- The text of a compiled graph hashes to its address. -/
def Libraries.Addresses (libraries : Libraries) (snapshot : Value) (graphHash : String) : Prop :=
  ∃ text ∈ snapshot.dumps libraries.format, libraries.sha256 text = graphHash

theorem addresses_of_compileGraph {libs : Libraries} {flow compiled}
    (run : compileGraph libs flow = .ok compiled) :
    libs.Addresses compiled.1 compiled.2 := by
  unfold compileGraph at run
  split at run
  · cases run
  · split at run
    · cases run
    · rename_i snap _ text dumped
      cases run
      exact ⟨text, dumped, rfl⟩

/-- A verdict that is returned was positive. -/
theorem value_of_ofExcept {α : Type} (verdict : Except ServiceError α) :
    Triple (fun _ => True) (ofExcept verdict) (fun val _ => verdict = .ok val) fun _ => True := by
  cases verdict with
  | ok val => exact .pure fun _ _ => rfl
  | error err => exact .throw fun _ _ => trivial

/-- What `compose_deployment` compiles is the posted graph. -/
theorem value_of_composedGraph (req : DeploymentComposeRequest) :
    Triple (fun _ => True) (composedGraph libraries req) (fun compiled _ =>
      libraries.Addresses compiled.1 compiled.2) fun _ => True := by
  refine .bind (.any _) fun definition => .bind (.any _) fun _ => .bind (.any _) fun _ => ?_
  exact (value_of_ofExcept _).imp (fun _ _ => trivial)
    (fun _ _ run => addresses_of_compileGraph run) fun _ _ => trivial

/-! ## What calls keep -/

/-- The version has a compiled graph of that id. -/
def Tables.Compiled (tables : Tables) (flowVersionId flowGraphSnapshotId : ℕ) : Prop :=
  ∃ graph ∈ tables.graphSnapshots,
    graph.flowGraphSnapshotId = flowGraphSnapshotId ∧ graph.flowVersionId = flowVersionId

/-- The version has a flow snapshot of that id. -/
def Tables.Frozen (tables : Tables) (flowVersionId flowSnapshotId : ℕ) : Prop :=
  ∃ row ∈ tables.flowSnapshots,
    row.flowSnapshotId = flowSnapshotId ∧ row.flowVersionId = flowVersionId

/-- A write to other tables than those that lead from a flow to its graph. -/
structure Tables.SamePointers (tables later : Tables) : Prop where
  flows : later.flows = tables.flows
  versions : later.versions = tables.versions
  graphSnapshots : later.graphSnapshots = tables.graphSnapshots
  flowSnapshots : later.flowSnapshots = tables.flowSnapshots
  deployments : later.deployments = tables.deployments
  nextId : tables.nextId ≤ later.nextId

/-- An invariant that every write of the service keeps, given what is known when it is made. -/
structure Tolerates (libraries : Libraries) (I : Tables → Prop) : Prop where
  flow : ∀ (tables : Tables) tenantId, I tables →
    I { tables with flows := tables.flows ++ [⟨tables.nextId, tenantId⟩]
                    nextId := tables.nextId + 1 }
  version : ∀ (tables : Tables) flowId, I tables →
    I { tables with versions := tables.versions ++ [⟨tables.nextId, flowId, .draft, false⟩]
                    nextId := tables.nextId + 1 }
  status : ∀ (tables : Tables) flowVersionId status, I tables →
    I (tables.setStatus flowVersionId status)
  active : ∀ (tables : Tables) flowId flowVersionId, I tables →
    I (tables.setActive flowId flowVersionId)
  graph : ∀ (tables : Tables) flowVersionId snapshot graphHash compiledBy,
    libraries.Addresses snapshot graphHash → tables.getGraphSnapshot flowVersionId = none →
    I tables → I (tables.insertGraphSnapshot flowVersionId snapshot graphHash compiledBy)
  snapshot : ∀ (tables : Tables) flowVersionId (content : FlowSnapshotContent),
    tables.Compiled flowVersionId content.flowGraphSnapshotId → I tables →
    I (tables.saveFlowSnapshot flowVersionId content)
  deployment : ∀ (tables : Tables) flowId flowVersionId flowSnapshotId environment,
    tables.Frozen flowVersionId flowSnapshotId → I tables →
    I (tables.replaceDeployment flowId flowVersionId flowSnapshotId environment)
  others : ∀ tables later : Tables, tables.SamePointers later → I tables → I later

section

variable (tolerates : Tolerates libraries I)

include tolerates

/-- A row of another table that takes the next id. -/
theorem Tolerates.insert {insert : Tables → Tables}
    (elsewhere : ∀ tables : Tables, tables.SamePointers (insert tables)) :
    Keeps I (modify insert : Service PUnit) :=
  .modify fun tabs => tolerates.others tabs _ (elsewhere tabs)

theorem Tolerates.insertNode (node : NewNode) :
    Keeps I (modify fun tables => tables.insertNode node : Service PUnit) :=
  tolerates.insert fun _ => ⟨rfl, rfl, rfl, rfl, rfl, Nat.le_succ _⟩

theorem Tolerates.createNode (req : NodeCreate) : Keeps I (createNode env tenantId req) :=
  .bind (keeps_plainNode req) fun node => tolerates.insertNode node

/-- A new node also goes into the draft of its version. -/
theorem Tolerates.attachNode (node : NewNode) (principalId : String) :
    Keeps I (attachNode node principalId) :=
  .bind .get fun _ => .bind (tolerates.insertNode node) fun _ => .bind .get fun _ =>
    tolerates.insert fun _ => ⟨rfl, rfl, rfl, rfl, rfl, le_refl _⟩

theorem Tolerates.copyNodeFromTemplate (flowId flowVersionId principalId req) :
    Keeps I (copyNodeFromTemplate libraries env tenantId flowId flowVersionId principalId req) :=
  .bind (keeps_templateNode _ _ req) fun node => tolerates.attachNode node principalId

theorem Tolerates.createCustomNode (flowId flowVersionId principalId req) :
    Keeps I (createCustomNode libraries env tenantId flowId flowVersionId principalId req) :=
  .bind (keeps_customNode _ _ req) fun node => tolerates.attachNode node principalId

theorem Tolerates.createRouter (nodeId : ℕ) : Keeps I (createRouter tenantId nodeId) :=
  .bind .get fun _ => .bind (.ofOption _ _) fun _ => .bind (keeps_tenantNode _) fun _ =>
    tolerates.insert fun _ => ⟨rfl, rfl, rfl, rfl, rfl, Nat.le_succ _⟩

theorem Tolerates.createConditionExpression (expression : Option String) :
    Keeps I (createConditionExpression expression) :=
  tolerates.insert fun _ => ⟨rfl, rfl, rfl, rfl, rfl, Nat.le_succ _⟩

theorem Tolerates.createRoutingRule (req : RoutingRuleCreate) :
    Keeps I (createRoutingRule tenantId req) :=
  .bind .get fun _ => .bind (.ofOption _ _) fun _ => .bind (.ofOption _ _) fun _ =>
    .bind (keeps_tenantNode _) fun _ => .bind (.raiseIf _ _) fun _ => .bind (.ofOption _ _) fun _ =>
    .bind (.ofOption _ _) fun _ => .bind (.raiseIf _ _) fun _ =>
    tolerates.insert fun _ => ⟨rfl, rfl, rfl, rfl, rfl, Nat.le_succ _⟩

/-- A batch commits its artifacts one by one. -/
theorem Tolerates.batchUpsertArtifacts (req : FlowArtifactsBatchUpsertRequest) :
    Keeps I (batchUpsertArtifacts tenantId libraries env req) := by
  refine .bind (keeps_tenantFlow _) fun _ => .bind (keeps_flowVersion _ _) fun _ => ?_
  refine .bind (.collect fun node _ => tolerates.copyNodeFromTemplate _ _ _ node) fun _ => ?_
  refine .bind (.collect fun node _ => tolerates.createCustomNode _ _ _ node) fun _ => ?_
  refine .bind (.collect fun node _ => tolerates.createRouter node) fun _ => ?_
  refine .bind (.collect fun text _ => tolerates.createConditionExpression text) fun _ => ?_
  exact .bind (.collect fun rule _ => tolerates.createRoutingRule rule) fun _ => .pure _

theorem Tolerates.createFlowGraph (req : FlowGraphDraftCreate) :
    Keeps I (createFlowGraph tenantId req) :=
  .bind (keeps_publishedVersion _ _) fun _ => .bind (keeps_ofValidator _) fun _ =>
    .bind .get fun _ => .bind (.raiseIf _ _) fun _ =>
    tolerates.insert fun _ => ⟨rfl, rfl, rfl, rfl, rfl, le_refl _⟩

/-- The graph that is stored is the version's only one, and is the one returned. -/
theorem Tolerates.createFlowGraphSnapshot {snap graphHash}
    (addresses : libraries.Addresses snap graphHash) (flowVersionId compiledBy) :
    Triple I (createFlowGraphSnapshot flowVersionId snap graphHash compiledBy)
      (fun graph tabs => I tabs ∧ tabs.Compiled flowVersionId graph.flowGraphSnapshotId) I := by
  refine .read fun seen holds => ?_
  have weaker : ∀ tabs, tabs = seen → I tabs := fun _ same => same ▸ holds
  refine .check weaker fun fresh => .check weaker fun _ => ?_
  rw [Bool.not_eq_true, Option.isSome_eq_false_iff, Option.isNone_iff_eq_none] at fresh
  refine .bind (.modify (R := fun _ tabs => I tabs ∧ tabs.Compiled flowVersionId seen.nextId) ?_)
    fun _ => .pure fun _ known => known
  rintro _ rfl
  exact ⟨tolerates.graph _ _ _ _ compiledBy addresses fresh holds, _,
    List.mem_append_right _ (List.mem_singleton_self _), rfl, rfl⟩

theorem Tolerates.compileFlowGraph (req : FlowGraphCompileRequest) :
    Keeps I (compileFlowGraph libraries tenantId req) := by
  refine .bind (keeps_publishedVersion _ _) fun _ => .bind .get fun _ => ?_
  refine .bind (.ofOption _ _) fun draft => .bind (.raiseIf _ _) fun _ => ?_
  refine .bind (keeps_ofValidator _) fun _ => .bind (keeps_assertAtMostOneMemoryWrite _) fun _ => ?_
  refine Triple.bind ((keeps_ofExcept _).returning (value_of_ofExcept _)) fun compiled =>
    .of_fact fun run => ?_
  exact .bind (tolerates.createFlowGraphSnapshot (addresses_of_compileGraph run) _ _) fun _ =>
    .pure fun _ known => known.1

omit tolerates in
theorem frozen_saveFlowSnapshot (tables : Tables) (flowVersionId content) :
    (tables.saveFlowSnapshot flowVersionId content).Frozen flowVersionId
      (((tables.getFlowSnapshot flowVersionId).map FlowSnapshotRow.flowSnapshotId).getD
        tables.nextId) := by
  unfold Tables.saveFlowSnapshot
  cases found : tables.getFlowSnapshot flowVersionId with
  | some row =>
    have same := Table.key_of_byKey found
    exact ⟨_, List.mem_map_of_mem (Table.mem_of_byKey found), by rw [if_pos same]; rfl, by
      rw [if_pos same]; exact same⟩
  | none => exact ⟨_, List.mem_append_right _ (List.mem_singleton_self _), rfl, rfl⟩

/-- The flow snapshot of the version is the one whose id is returned. -/
theorem Tolerates.upsertFlowSnapshot {flowVersionId flowGraphSnapshotId : ℕ}
    {content : FlowSnapshotContent} (named : content.flowGraphSnapshotId = flowGraphSnapshotId) :
    Triple (fun tabs => I tabs ∧ tabs.Compiled flowVersionId flowGraphSnapshotId)
      (upsertFlowSnapshot flowVersionId content)
      (fun flowSnapshotId tabs => I tabs ∧ tabs.Frozen flowVersionId flowSnapshotId) I := by
  refine .read fun seen known => .check (fun _ same => same ▸ known.1) fun _ => ?_
  refine .bind (.modify (R := fun _ tabs => I tabs ∧
    tabs = seen.saveFlowSnapshot flowVersionId content) ?_) fun _ => ?_
  · rintro _ rfl
    exact ⟨tolerates.snapshot _ _ content (named ▸ known.2) known.1, rfl⟩
  · have frozen := frozen_saveFlowSnapshot seen flowVersionId content
    cases found : seen.getFlowSnapshot flowVersionId with
    | some row | none =>
      rw [found] at frozen
      exact .pure fun tabs saved => ⟨saved.1, saved.2 ▸ frozen⟩

theorem Tolerates.upsertFlowDeployment (flowId flowVersionId flowSnapshotId environment) :
    Triple (fun tabs => I tabs ∧ tabs.Frozen flowVersionId flowSnapshotId)
      (upsertFlowDeployment flowId flowVersionId flowSnapshotId environment) (fun _ => I) I := by
  refine .read fun seen known => .bind (.modify (R := fun _ => I) ?_) fun _ =>
    .pure fun _ holds => holds
  rintro _ rfl
  exact tolerates.deployment _ flowId _ _ environment known.2 known.1

/-- The graph that a flow snapshot names stays compiled while the snapshot is made. -/
theorem Tolerates.materializeSnapshot (flowId flowVersionId principalId attach) :
    Keeps I (materializeSnapshot libraries env flowId flowVersionId principalId attach) := by
  refine Triple.read fun seen holds => ?_
  split
  · rename_i graph flow compiled _
    have named : ∀ tabs, tabs = seen →
        I tabs ∧ tabs.Compiled flowVersionId graph.flowGraphSnapshotId := by
      rintro _ rfl
      exact ⟨holds, graph, Table.mem_of_byKey compiled, rfl, Table.key_of_byKey compiled⟩
    refine Triple.imp ?_ named (fun _ _ holds => holds) fun _ holds => holds
    refine .bind ((keeps_resolveFrozenRag _).orRaises fun _ known => known.1) fun frozen => ?_
    refine .bind ((keeps_ofExcept _).orRaises fun _ known => known.1) fun hash => ?_
    refine .bind (tolerates.upsertFlowSnapshot rfl) fun flowSnapshotId => ?_
    split
    · exact .bind (tolerates.upsertFlowDeployment _ _ _ _) fun _ => .pure fun _ holds => holds
    · exact .pure fun _ known => known.1
  · exact .pure fun _ same => same ▸ holds

theorem Tolerates.validateFlowVersion (flowId flowVersionId : ℕ) :
    Keeps I (validateFlowVersion env tenantId flowId flowVersionId) := by
  refine .bind (keeps_tenantFlow _) fun _ => .bind (keeps_flowVersion _ _) fun _ => ?_
  refine .bind (.raiseIf _ _) fun _ => .bind .get fun _ => .bind (.ofOption _ _) fun _ => ?_
  refine .bind (.raiseIf _ _) fun _ => .bind (.ofOption _ _) fun _ =>
    .bind (.raiseIf _ _) fun _ => ?_
  exact .bind (keeps_assertAtMostOneMemoryWrite _) fun _ => .modify fun tabs =>
    tolerates.status tabs _ _

theorem Tolerates.publishFlowVersion (req : VersionRequest) :
    Keeps I (publishFlowVersion libraries env tenantId req) := by
  refine .bind (keeps_tenantFlow _) fun _ => .bind (keeps_flowVersion _ _) fun _ => ?_
  refine .bind (.raiseIf _ _) fun _ => .bind (.raiseIf _ _) fun _ => ?_
  refine .bind (keeps_assertAtMostOneMemoryWrite _) fun _ => ?_
  exact .bind (.modify fun tabs => tolerates.status tabs _ _) fun _ =>
    tolerates.materializeSnapshot _ _ _ _

/-- Activation and rollback move the pointer of the flow alike. -/
theorem Tolerates.moveActiveVersion (req : VersionRequest) :
    Keeps I (moveActiveVersion tenantId req) :=
  .bind (keeps_publishedVersion _ _) fun _ => .bind (.raiseIf _ _) fun _ => .bind .get fun _ =>
    .bind (.raiseIf _ _) fun _ => .modify fun tabs => tolerates.active tabs _ _

/-- The version's graph, whether it was there or is stored now. -/
theorem Tolerates.ensureGraphSnapshot (req : DeploymentComposeRequest) {snap graphHash}
    (addresses : libraries.Addresses snap graphHash) :
    Triple I (ensureGraphSnapshot req snap graphHash)
      (fun graph tabs => I tabs ∧ tabs.Compiled req.flowVersionId graph.flowGraphSnapshotId) I := by
  refine .read fun seen holds => ?_
  split
  · rename_i graph compiled
    refine .pure ?_
    rintro _ rfl
    exact ⟨holds, graph, Table.mem_of_byKey compiled, rfl, Table.key_of_byKey compiled⟩
  · exact (tolerates.createFlowGraphSnapshot addresses _ _).imp (fun _ same => same ▸ holds)
      (fun _ _ known => known) fun _ raised => raised

theorem Tolerates.composeDeployment (req : DeploymentComposeRequest) :
    Keeps I (composeDeployment libraries env tenantId req) := by
  refine .ite ?_ (.ofOption _ _)
  refine .bind (keeps_publishedVersion _ _) fun _ => ?_
  refine Triple.bind ((keeps_composedGraph req).returning (value_of_composedGraph req))
    fun compiled => .of_fact fun addresses => ?_
  refine .bind (tolerates.ensureGraphSnapshot req addresses) fun graph => ?_
  refine .bind ((keeps_resolveFrozenRag _).orRaises fun _ known => known.1) fun frozen => ?_
  refine .bind ((keeps_ofExcept _).orRaises fun _ known => known.1) fun hash => ?_
  refine .bind (tolerates.upsertFlowSnapshot rfl) fun flowSnapshotId => ?_
  exact .bind (tolerates.upsertFlowDeployment _ _ _ _) fun _ => .pure fun _ holds => holds

/-- Every call keeps an invariant that tolerates the writes of the service. -/
theorem Tolerates.perform (call : Call) : Keeps I (perform libraries call) := by
  obtain ⟨tenantId, env, op⟩ := call
  cases op with
  | createFlow name =>
    exact .bind (.raiseIf _ _) fun _ => .modify fun tabs => tolerates.flow tabs _
  | createFlowVersion flowId sourceVersionId =>
    exact .bind (keeps_tenantFlow _) fun _ => .bind .get fun _ => .bind (.raiseIf _ _) fun _ =>
      .modify fun tabs => tolerates.version tabs _
  | createNode req => exact tolerates.createNode req
  | copyNodeFromTemplate flowId flowVersionId principalId req =>
    exact tolerates.copyNodeFromTemplate _ _ _ _
  | createCustomNode flowId flowVersionId principalId req =>
    exact tolerates.createCustomNode _ _ _ _
  | createRouter nodeId => exact tolerates.createRouter nodeId
  | createConditionExpression text => exact tolerates.createConditionExpression text
  | createRoutingRule req => exact tolerates.createRoutingRule req
  | batchUpsertArtifacts req => exact tolerates.batchUpsertArtifacts req
  | createFlowGraph req => exact tolerates.createFlowGraph req
  | upsertFlowGraphDraft req =>
    exact .bind (keeps_draftToSave req) fun _ =>
      tolerates.insert fun _ => ⟨rfl, rfl, rfl, rfl, rfl, le_refl _⟩
  | validateFlowGraphDraft req =>
    exact .bind (keeps_draftToValidate req) fun _ =>
      tolerates.insert fun _ => ⟨rfl, rfl, rfl, rfl, rfl, le_refl _⟩
  | compileFlowGraph req => exact tolerates.compileFlowGraph req
  | validateFlowVersion flowId flowVersionId =>
    exact tolerates.validateFlowVersion flowId flowVersionId
  | publishFlowVersion req => exact tolerates.publishFlowVersion req
  | activateFlowVersion req =>
    exact .bind (tolerates.moveActiveVersion req) fun _ => tolerates.materializeSnapshot _ _ _ _
  | rollbackFlowVersion req => exact tolerates.moveActiveVersion req
  | composeDeployment req => exact .bind (tolerates.composeDeployment req) fun _ => .pure _

/-- So does every history. -/
theorem Tolerates.history {tabs} (before : I tabs) (calls : List Call) :
    I (history libraries tabs calls) := by
  induction calls generalizing tabs with
  | nil => exact before
  | cons call calls ih => exact ih (Triple.after (tolerates.perform call) before)

end

/-! ## A published version -/

/-- A service without RAG whose validators accept every expression and configuration. -/
def plainLibraries : Libraries := ⟨lenientLibraries, plainFormat, id, false⟩

/-- No templates, no policy, and a fresh idempotency key. -/
def plainEnvironment : Environment where
  nodeTemplate _ := none
  systemNodeTemplate _ := none
  activePrompt _ := none
  promptExists _ := true
  ragConfigExists _ := true
  limitPolicy := none
  frozenRag _ _ := .ok .none
  acquired := true
  stored := none
  now := 0

def publishedTables : Tables where
  flows := [⟨1, 7⟩]
  versions := [⟨2, 1, .published, true⟩]
  nodes := []
  drafts := []
  graphs := []
  graphSnapshots := []
  flowSnapshots := []
  deployments := []
  routers := []
  conditionExpressions := []
  routingRules := []
  nextId := 10

def singleNode : FlowGraphDefinition :=
  { startNode := "respond", nodes := [("respond", ⟨"ResponseBuilder", none⟩)], edges := []
    distinct := by decide }

end AgentOrchestration.FlowsService
