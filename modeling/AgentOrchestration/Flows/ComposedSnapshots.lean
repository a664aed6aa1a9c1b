import AgentOrchestration.Flows.ServiceInvariants

/-!
# Composed flow snapshots

What `compose_deployment` stores. The graph of the request is validated and compiled, but a
version that has a compiled graph keeps it, whatever it was compiled from, and the flow
snapshot then names that graph and its hash.
-/

namespace AgentOrchestration.FlowsService

set_option autoImplicit false

open Execution (ServiceError FlowRow)
open Flows (uniqueRagConfigId)
open Program (bind_eq_ok pure_eq_ok get_bind_apply modify_bind_apply ofOption_bind_eq_ok
  raiseIf_bind_eq_ok
  raiseIf_eq_ok)

/-! ## Compiled graphs -/

/-- `get_flow_graph_snapshot`: how a run reads the graph that its flow snapshot names. -/
def Tables.getFlowGraphSnapshot (tables : Tables) (flowGraphSnapshotId : ℕ) :
    Option FlowGraphSnapshotRow :=
  Table.byKey FlowGraphSnapshotRow.flowGraphSnapshotId tables.graphSnapshots flowGraphSnapshotId

/-- Compiled graphs have distinct ids, and each the hash of its text. -/
structure Tables.Addressed (libraries : Libraries) (tables : Tables) : Prop where
  unique : Table.UniqueKeys FlowGraphSnapshotRow.flowGraphSnapshotId tables.graphSnapshots
  used : ∀ row ∈ tables.graphSnapshots, row.flowGraphSnapshotId < tables.nextId
  addresses : ∀ row ∈ tables.graphSnapshots, libraries.Addresses row.snapshot row.graphHash

namespace Tables.Addressed

variable {libraries : Libraries} {tables : Tables}

theorem of_eq {later : Tables} (addressed : tables.Addressed libraries)
    (graphs : later.graphSnapshots = tables.graphSnapshots)
      (nextId : tables.nextId ≤ later.nextId) :
    later.Addressed libraries := by
  refine ⟨?_, fun row mem => ?_, fun row mem => ?_⟩
  · rw [graphs]
    exact addressed.unique
  · rw [graphs] at mem
    exact lt_of_lt_of_le (addressed.used row mem) nextId
  · rw [graphs] at mem
    exact addressed.addresses row mem

theorem insertGraphSnapshot (addressed : tables.Addressed libraries) {snap graphHash}
    (addresses : libraries.Addresses snap graphHash) (flowVersionId compiledBy) :
    (tables.insertGraphSnapshot flowVersionId snap graphHash compiledBy).Addressed libraries := by
  refine ⟨addressed.unique.append ?_, fun row mem => ?_, fun row mem => ?_⟩
  · exact Table.byKey_eq_none_iff.mpr fun row mem => (addressed.used row mem).ne
  · rcases List.mem_append.mp mem with old | new
    · exact (addressed.used row old).trans (Nat.lt_succ_self _)
    · rw [List.mem_singleton.mp new]
      exact Nat.lt_succ_self _
  · rcases List.mem_append.mp mem with old | new
    · exact addressed.addresses row old
    · rw [List.mem_singleton.mp new]
      exact addresses

theorem found (addressed : tables.Addressed libraries) {graph}
    (mem : graph ∈ tables.graphSnapshots) :
    tables.getFlowGraphSnapshot graph.flowGraphSnapshotId = some graph :=
  (Table.byKey_eq_some_iff addressed.unique).mpr ⟨mem, rfl⟩

end Tables.Addressed

theorem tolerates_addressed (libs : Libraries) : Tolerates libs (Tables.Addressed libs) where
  flow _ _ addressed := addressed.of_eq rfl (Nat.le_succ _)
  version _ _ addressed := addressed.of_eq rfl (Nat.le_succ _)
  status _ _ _ addressed := addressed.of_eq rfl (le_refl _)
  active _ _ _ addressed := addressed.of_eq rfl (le_refl _)
  graph _ flowVersionId _ _ compiledBy addresses _ addressed :=
    addressed.insertGraphSnapshot addresses flowVersionId compiledBy
  snapshot _ _ _ _ addressed := by
    unfold Tables.saveFlowSnapshot
    split
    · exact addressed.of_eq rfl (le_refl _)
    · exact addressed.of_eq rfl (Nat.le_succ _)
  deployment _ _ _ _ _ _ addressed := addressed.of_eq rfl (Nat.le_succ _)
  others _ _ same addressed := addressed.of_eq same.graphSnapshots same.nextId

variable {libraries : Libraries}

/-- Compiled graphs keep distinct ids and the hashes of their texts along every history. -/
theorem addressed_history {tabs} (addressed : tabs.Addressed libraries)
    (calls : List Call) : (history libraries tabs calls).Addressed libraries :=
  (tolerates_addressed libraries).history addressed calls

/-- **However the service is called, a compiled graph is found under its id, with the hash of its
text.** -/
theorem compiled_graphs_addressed (libraries)
    (tables : { tables : Tables // tables.Addressed libraries }) (calls) :
    ∀ graph ∈ (history libraries tables.1 calls).graphSnapshots, libraries.Addresses graph.snapshot
      graph.graphHash ∧
      (history libraries tables.1 calls).getFlowGraphSnapshot graph.flowGraphSnapshotId =
        some graph := by
  have addressed := addressed_history tables.2 calls
  exact fun graph compiled => ⟨addressed.addresses graph compiled, addressed.found compiled⟩

/-! ## Runs of the checks -/

variable {tables later : Tables} {request : DeploymentComposeRequest}

section

variable {libraries : Libraries} {env : Environment} {tenantId : ℕ}

theorem ofExcept_eq_ok {α : Type} {verdict : Except ServiceError α} {val : α} :
    (ofExcept verdict) tables = .ok val later ↔ verdict = .ok val ∧ later = tables := by
  cases verdict with
  | ok other =>
    rw [ofExcept, pure_eq_ok, Except.ok.injEq]
  | error err => exact ⟨nofun, nofun⟩

theorem ofValidator_eq_ok {verdict val} :
    (ofValidator verdict) tables = .ok val later ↔ verdict = .ok () ∧ later = tables := by
  cases verdict with
  | ok other =>
    rw [ofValidator, pure_eq_ok]
    exact and_congr_left fun _ => ⟨fun _ => rfl, fun _ => rfl⟩
  | error err => exact ⟨nofun, nofun⟩

variable {flow : FlowRow}

theorem tenantFlow_eq_ok {flowId : ℕ} : (tenantFlow tenantId flowId) tables = .ok flow later ↔
      (tables.getFlow flowId = some flow ∧ flow.tenantId = tenantId) ∧ later = tables := by
  simp only [tenantFlow, get_bind_apply, ofOption_bind_eq_ok, raiseIf_bind_eq_ok,
    pure_eq_ok, not_not]
  constructor
  · rintro ⟨found, get, tenant, rfl, eq⟩
    exact ⟨⟨get, tenant⟩, eq⟩
  · rintro ⟨⟨get, tenant⟩, eq⟩
    exact ⟨flow, get, tenant, rfl, eq⟩

variable {flowId flowVersionId : ℕ}

theorem flowVersion_eq_ok {version} :
    (flowVersion flowId flowVersionId) tables = .ok version later ↔
      (tables.getFlowVersion flowVersionId = some version ∧ version.flowId = flowId) ∧
        later = tables := by
  simp only [flowVersion, get_bind_apply, ofOption_bind_eq_ok, raiseIf_bind_eq_ok,
    pure_eq_ok, not_not]
  constructor
  · rintro ⟨found, get, flow, rfl, eq⟩
    exact ⟨⟨get, flow⟩, eq⟩
  · rintro ⟨⟨get, flow⟩, eq⟩
    exact ⟨version, get, flow, rfl, eq⟩

def Tables.Owned (tables : Tables) (tenantId flowId flowVersionId : ℕ) : Prop :=
  (∃ flow, tables.getFlow flowId = some flow ∧ flow.tenantId = tenantId) ∧
    ∃ version, tables.getFlowVersion flowVersionId = some version ∧ version.flowId = flowId

theorem owned_of_publishedVersion
    (run : (publishedVersion tenantId flowId flowVersionId) tables = .ok flow later) :
    tables.Owned tenantId flowId flowVersionId ∧ later = tables := by
  obtain ⟨flow, _, findsFlow, versionRun⟩ := bind_eq_ok.mp run
  obtain ⟨ofTenant, rfl⟩ := tenantFlow_eq_ok.mp findsFlow
  obtain ⟨version, _, findsVersion, statusRun⟩ := bind_eq_ok.mp versionRun
  obtain ⟨ofFlow, rfl⟩ := flowVersion_eq_ok.mp findsVersion
  exact ⟨⟨⟨flow, ofTenant⟩, version, ofFlow⟩, (pure_eq_ok.mp (raiseIf_bind_eq_ok.mp statusRun).2).2⟩

/-- The graph of the request passes the checks on the nodes of the version, and compiles. -/
def Compiles (libraries : Libraries) (request : DeploymentComposeRequest) (nodes : List NodeRow)
    (compiled : Value × String) : Prop :=
  ∃ definition, request.graphDefinition = some definition ∧
    FlowGraphDraftValidator.validate libraries.draft definition = .ok () ∧
    ¬ 1 < (nodes.countP fun row => row.flags.allowMemoryWrite) ∧
      compileGraph libraries definition = .ok compiled

variable {compiled : Value × String}

theorem composedGraph_eq_ok : (composedGraph libraries request) tables = .ok compiled later ↔
      Compiles libraries request (tables.nodesOf request.flowVersionId) compiled ∧
        later = tables := by
  rw [composedGraph, ofOption_bind_eq_ok]
  constructor
  · rintro ⟨flow, posted, run⟩
    obtain ⟨_, _, validates, countRun⟩ := bind_eq_ok.mp run
    obtain ⟨accepted, rfl⟩ := ofValidator_eq_ok.mp validates
    obtain ⟨_, _, counts, compileRun⟩ := bind_eq_ok.mp countRun
    rw [assertAtMostOneMemoryWrite, get_bind_apply] at counts
    obtain ⟨few, rfl⟩ := raiseIf_eq_ok.mp counts
    obtain ⟨compiles, eq⟩ := ofExcept_eq_ok.mp compileRun
    exact ⟨⟨flow, posted, accepted, few, compiles⟩, eq⟩
  · rintro ⟨⟨flow, posted, accepted, few, compiles⟩, eq⟩
    refine ⟨flow, posted, bind_eq_ok.mpr ⟨⟨⟩, tables, ofValidator_eq_ok.mpr ⟨accepted, rfl⟩, ?_⟩⟩
    refine bind_eq_ok.mpr ⟨⟨⟩, tables, ?_, ofExcept_eq_ok.mpr ⟨compiles, eq⟩⟩
    exact raiseIf_eq_ok.mpr ⟨few, rfl⟩

def frozenFor (libraries : Libraries) (env : Environment) (tenantId : ℕ) (nodes : List NodeRow) :
    Except ServiceError FrozenRag :=
  if libraries.ragConfigured = false then .ok FrozenRag.none
  else (uniqueRagConfigId none (nodes.map NodeRow.toFlowNodeRow)).bind (env.frozenRag tenantId)

variable {frozen : FrozenRag}

theorem resolveFrozenRag_eq_ok {flowVersionId : ℕ} :
    (resolveFrozenRag libraries env tenantId flowVersionId) tables = .ok frozen later ↔
      frozenFor libraries env tenantId (tables.nodesOf flowVersionId) = .ok frozen ∧
        later = tables := by
  rw [resolveFrozenRag, frozenFor]
  split
  · rw [pure_eq_ok, Except.ok.injEq]
  · rw [get_bind_apply, bind_eq_ok]
    cases uniqueRagConfigId none ((tables.nodesOf flowVersionId).map NodeRow.toFlowNodeRow) with
    | error err => exact ⟨nofun, nofun⟩
    | ok ragConfigId =>
      constructor
      · rintro ⟨_, _, unique, run⟩
        obtain ⟨eq, rfl⟩ := ofExcept_eq_ok.mp unique
        cases eq
        exact ofExcept_eq_ok.mp run
      · intro frozen
        exact ⟨ragConfigId, tables, rfl, ofExcept_eq_ok.mpr frozen⟩

/-- The dry run passes for the tenant's versions whose graph compiles. -/
theorem validateComposeDeployment_eq_ok {hash : String}
    (owned : tables.Owned tenantId request.flowId request.flowVersionId)
    (compiles : Compiles libraries request (tables.nodesOf request.flowVersionId) compiled)
    (freezes : frozenFor libraries env tenantId (tables.nodesOf request.flowVersionId) = .ok frozen)
    (hashes : composedHash libraries request compiled.2 frozen = .ok hash) :
    (validateComposeDeployment libraries env tenantId request) tables = .ok hash tables := by
  obtain ⟨⟨flow, ofTenant⟩, version, ofFlow⟩ := owned
  refine bind_eq_ok.mpr ⟨flow, tables, tenantFlow_eq_ok.mpr ⟨ofTenant, rfl⟩, ?_⟩
  refine bind_eq_ok.mpr ⟨version, tables, flowVersion_eq_ok.mpr ⟨ofFlow, rfl⟩, ?_⟩
  refine bind_eq_ok.mpr ⟨compiled, tables, composedGraph_eq_ok.mpr ⟨compiles, rfl⟩, ?_⟩
  refine bind_eq_ok.mpr ⟨frozen, tables, resolveFrozenRag_eq_ok.mpr ⟨freezes, rfl⟩, ?_⟩
  exact ofExcept_eq_ok.mpr ⟨hashes, rfl⟩

end

/-! ## Runs of the writes -/

structure SameAuthoring (before later : Tables) : Prop where
  flows : later.flows = before.flows
  versions : later.versions = before.versions
  nodes : later.nodes = before.nodes

theorem SameAuthoring.trans {first second third} (here : SameAuthoring first second)
    (there : SameAuthoring second third) : SameAuthoring first third :=
  ⟨there.flows.trans here.flows, there.versions.trans here.versions, there.nodes.trans here.nodes⟩

theorem SameAuthoring.nodesOf {before later} (eq : SameAuthoring before later) (flowVersionId : ℕ) :
    later.nodesOf flowVersionId = before.nodesOf flowVersionId := by
  rw [Tables.nodesOf, Tables.nodesOf, eq.nodes]

theorem SameAuthoring.owned {before later} (eq : SameAuthoring before later)
    {tenantId flowId flowVersionId : ℕ} (owned : before.Owned tenantId flowId flowVersionId) :
    later.Owned tenantId flowId flowVersionId := by
  rw [Tables.Owned, Tables.getFlow, Tables.getFlowVersion, eq.flows, eq.versions]
  exact owned

section

/-- The row that `upsert_flow_snapshot` leaves keeps the id of the row it replaces. -/
theorem getFlowSnapshot_saveFlowSnapshot (tabs : Tables) (flowVersionId content) :
    (tabs.saveFlowSnapshot flowVersionId content).getFlowSnapshot flowVersionId =
      some { content with
        flowVersionId
        flowSnapshotId :=
          ((tabs.getFlowSnapshot flowVersionId).map (·.flowSnapshotId)).getD tabs.nextId } := by
  rw [Tables.saveFlowSnapshot]
  cases found : tabs.getFlowSnapshot flowVersionId with
  | none =>
    rw [if_neg (by simp), Tables.getFlowSnapshot, Table.byKey, List.find?_append]
    rw [Tables.getFlowSnapshot, Table.byKey] at found
    simp [found]
  | some row =>
    have version : row.flowVersionId = flowVersionId := Table.key_of_byKey found
    rw [if_pos (by simp), Tables.getFlowSnapshot, Table.byKey_map (fun row => by split <;> rfl)]
    rw [Tables.getFlowSnapshot] at found
    simp [found, version]

theorem authoring_saveFlowSnapshot (tabs : Tables) (flowVersionId content) :
    SameAuthoring tabs (tabs.saveFlowSnapshot flowVersionId content) ∧
      (tabs.saveFlowSnapshot flowVersionId content).graphSnapshots = tabs.graphSnapshots := by
  rw [Tables.saveFlowSnapshot]
  split <;> exact ⟨⟨rfl, rfl, rfl⟩, rfl⟩

theorem upsertFlowSnapshot_eq_ok {flowVersionId flowSnapshotId content}
    (run : (upsertFlowSnapshot flowVersionId content) tables = .ok flowSnapshotId later) :
    later = tables.saveFlowSnapshot flowVersionId content ∧
      later.getFlowSnapshot flowVersionId = some { content with
                                                   flowVersionId, flowSnapshotId } := by
  rw [upsertFlowSnapshot, get_bind_apply, raiseIf_bind_eq_ok, modify_bind_apply] at run
  have stored := getFlowSnapshot_saveFlowSnapshot tables flowVersionId content
  cases found : tables.getFlowSnapshot flowVersionId with
  | none | some row =>
    rw [found] at run stored
    obtain ⟨rfl, rfl⟩ := pure_eq_ok.mp run.2
    exact ⟨rfl, stored⟩

variable {snapshot : Value} {graphHash : String} {graph : FlowGraphSnapshotRow}

/-- The compiled graph that a composition uses: the one of the version, or else a new one. -/
theorem ensureGraphSnapshot_eq_ok
    (run : (ensureGraphSnapshot request snapshot graphHash) tables = .ok graph later) :
    (tables.getGraphSnapshot request.flowVersionId = some graph ∧ later = tables) ∨
      (tables.getGraphSnapshot request.flowVersionId = none ∧
        graph = ⟨tables.nextId, request.flowVersionId, snapshot, graphHash, request.principalId⟩ ∧
        later = tables.insertGraphSnapshot request.flowVersionId snapshot graphHash
          request.principalId) := by
  rw [ensureGraphSnapshot, get_bind_apply] at run
  cases found : tables.getGraphSnapshot request.flowVersionId with
  | some row =>
    rw [found] at run
    obtain ⟨rfl, eq⟩ := pure_eq_ok.mp run
    exact .inl ⟨rfl, eq⟩
  | none =>
    rw [found] at run
    simp only [createFlowGraphSnapshot, get_bind_apply, raiseIf_bind_eq_ok, modify_bind_apply,
      pure_eq_ok] at run
    obtain ⟨-, -, rfl, eq⟩ := run
    exact .inr ⟨rfl, rfl, eq⟩

theorem authoring_ensureGraphSnapshot
    (run : (ensureGraphSnapshot request snapshot graphHash) tables = .ok graph later) :
    SameAuthoring tables later := by
  rcases ensureGraphSnapshot_eq_ok run with ⟨-, rfl⟩ | ⟨-, -, rfl⟩ <;> exact ⟨rfl, rfl, rfl⟩

end

/-! ## Compositions -/

/-- What a call that stores a flow snapshot has found, and what it leaves behind. -/
structure Stores (libraries : Libraries) (env : Environment) (tenantId : ℕ)
    (request : DeploymentComposeRequest)
    (before later : Tables) (compiled : Value × String) (graph : FlowGraphSnapshotRow)
      (row : FlowSnapshotRow) :
    Prop where
  owned : before.Owned tenantId request.flowId request.flowVersionId
  compiles : Compiles libraries request (before.nodesOf request.flowVersionId) compiled
  ensures : ∃ middle, (ensureGraphSnapshot request compiled.1 compiled.2) before =
    .ok graph middle ∧ later.graphSnapshots = middle.graphSnapshots
  hashes : ∃ frozen, frozenFor libraries env tenantId (before.nodesOf request.flowVersionId) =
    .ok frozen ∧ composedHash libraries request graph.graphHash frozen = .ok row.snapshotHash
  stored : later.getFlowSnapshot request.flowVersionId = some row
  graphHash : row.graphHash = graph.graphHash
  graphId : row.flowGraphSnapshotId = graph.flowGraphSnapshotId
  authoring : SameAuthoring before later

theorem composeAcquired_eq_ok {env tenantId req} {resp : DeploymentComposeResponse} {before later}
    (run : (composeAcquired libraries env tenantId req) before = .ok resp later) :
    ∃ compiled graph row, Stores libraries env tenantId req before later compiled graph row ∧
      row.flowSnapshotId = resp.flowSnapshotId := by
  obtain ⟨_, _, publishes, composeRun⟩ := bind_eq_ok.mp run
  obtain ⟨owned, rfl⟩ := owned_of_publishedVersion publishes
  obtain ⟨compiled, _, composes, ensureRun⟩ := bind_eq_ok.mp composeRun
  obtain ⟨compiles, rfl⟩ := composedGraph_eq_ok.mp composes
  obtain ⟨graph, middle, ensures, freezeRun⟩ := bind_eq_ok.mp ensureRun
  obtain ⟨frozen, _, resolves, hashRun⟩ := bind_eq_ok.mp freezeRun
  obtain ⟨freezes, rfl⟩ := resolveFrozenRag_eq_ok.mp resolves
  obtain ⟨hash, _, composesHash, saveRun⟩ := bind_eq_ok.mp hashRun
  obtain ⟨hashes, rfl⟩ := ofExcept_eq_ok.mp composesHash
  obtain ⟨flowSnapshotId, saved, saves, deployRun⟩ := bind_eq_ok.mp saveRun
  obtain ⟨rfl, stored⟩ := upsertFlowSnapshot_eq_ok saves
  simp only [upsertFlowDeployment, bind_assoc, get_bind_apply, modify_bind_apply, pure_bind,
    pure_eq_ok] at deployRun
  obtain ⟨rfl, rfl⟩ := deployRun
  have ensured := authoring_ensureGraphSnapshot ensures
  rw [ensured.nodesOf] at freezes
  obtain ⟨saved, graphs⟩ := authoring_saveFlowSnapshot _ req.flowVersionId _
  have authoring := ensured.trans saved
  exact ⟨compiled, graph, _,
    ⟨owned, compiles, ⟨_, ensures, graphs⟩, ⟨frozen, freezes, hashes⟩, stored, rfl, rfl,
    ⟨authoring.flows, authoring.versions, authoring.nodes⟩⟩, rfl⟩

/-- A call of `compose_deployment` that stores a flow snapshot. -/
structure Composition where
  before : Tables
  tenantId : ℕ
  env : Environment
  request : DeploymentComposeRequest
  response : DeploymentComposeResponse
  later : Tables

namespace Composition

variable (libraries : Libraries) (composition : Composition)

def Of (tables : Tables) (calls : List Call) : Prop :=
  (∃ past, past ++
    [⟨composition.tenantId, composition.env, .composeDeployment composition.request⟩] <+: calls ∧
    composition.before = history libraries tables past) ∧
  composition.env.acquired = true ∧
  (composeDeployment libraries composition.env composition.tenantId composition.request)
    composition.before = .ok composition.response composition.later

/-- The stored row has the hash of the graph it was composed from, names a compiled graph with that
hash, and has the hash that the dry run reports, before the call and after it. -/
def Consistent : Prop :=
  ∃ definition compiled row, composition.request.graphDefinition = some definition ∧
    compileGraph libraries definition = .ok compiled ∧
    composition.later.getFlowSnapshot composition.request.flowVersionId = some row ∧
    row.flowSnapshotId = composition.response.flowSnapshotId ∧
    row.graphHash = compiled.2 ∧
    (∃ graph, composition.later.getFlowGraphSnapshot row.flowGraphSnapshotId = some graph ∧
      graph.graphHash = compiled.2 ∧ libraries.Addresses graph.snapshot compiled.2) ∧
    ∀ tables, tables = composition.before ∨ tables = composition.later →
      (validateComposeDeployment libraries composition.env composition.tenantId composition.request)
        tables = .ok row.snapshotHash tables

def Fitting : Prop :=
  ∀ graph, composition.before.getGraphSnapshot composition.request.flowVersionId = some graph →
    ∀ definition compiled, composition.request.graphDefinition = some definition →
      compileGraph libraries definition = .ok compiled → graph.graphHash = compiled.2

variable {libraries composition} {tables : Tables} {calls : List Call}

theorem Of.stores (of : composition.Of libraries tables calls) :
    ∃ compiled graph row, Stores libraries composition.env composition.tenantId composition.request
      composition.before composition.later compiled graph row ∧
      row.flowSnapshotId = composition.response.flowSnapshotId := by
  obtain ⟨-, acquired, run⟩ := of
  rw [composeDeployment, if_pos acquired] at run
  exact composeAcquired_eq_ok run

theorem fitting_of_consistent (of : composition.Of libraries tables calls)
    (consistent : composition.Consistent libraries) : composition.Fitting libraries := by
  intro graph found flow compiled posted compiles
  obtain ⟨_, _, row, posted', compiles', stored', -, hash, -⟩ := consistent
  rw [posted, Option.some.injEq] at posted'
  subst posted'
  rw [compiles, Except.ok.injEq] at compiles'
  subst compiles'
  obtain ⟨_, used, row', stores, -⟩ := of.stores
  obtain ⟨middle, ensures, -⟩ := stores.ensures
  rcases ensureGraphSnapshot_eq_ok ensures with ⟨reused, -⟩ | ⟨absent, -⟩
  · rw [found, Option.some.injEq] at reused
    rw [stores.stored, Option.some.injEq] at stored'
    rw [reused, ← stores.graphHash, stored']
    exact hash
  · rw [found] at absent
    cases absent

theorem graph_of_fitting {compiled graph row}
    (addressed : composition.before.Addressed libraries) (fitting : composition.Fitting libraries)
    (stores : Stores libraries composition.env composition.tenantId composition.request
      composition.before
      composition.later compiled graph row) :
    graph.graphHash = compiled.2 ∧ libraries.Addresses graph.snapshot compiled.2 ∧
      composition.later.getFlowGraphSnapshot graph.flowGraphSnapshotId = some graph := by
  obtain ⟨flow, posted, -, -, compiles⟩ := stores.compiles
  obtain ⟨middle, ensures, graphs⟩ := stores.ensures
  rw [Tables.getFlowGraphSnapshot, graphs, ← Tables.getFlowGraphSnapshot]
  rcases ensureGraphSnapshot_eq_ok ensures with ⟨reused, rfl⟩ | ⟨-, rfl, rfl⟩
  · have hash := fitting graph reused flow compiled posted compiles
    have mem := Table.mem_of_byKey reused
    exact ⟨hash, hash ▸ addressed.addresses graph mem, addressed.found mem⟩
  · have addresses := addresses_of_compileGraph compiles
    exact ⟨rfl, addresses, (addressed.insertGraphSnapshot addresses _ _).found
      (List.mem_append_right _ (List.mem_singleton_self _))⟩

theorem consistent_of_fitting (addressed : composition.before.Addressed libraries)
    (of : composition.Of libraries tables calls) (fitting : composition.Fitting libraries) :
    composition.Consistent libraries := by
  obtain ⟨compiled, graph, row, stores, id⟩ := of.stores
  obtain ⟨hash, addresses, found⟩ := graph_of_fitting addressed fitting stores
  obtain ⟨flow, posted, -, -, compiles⟩ := stores.compiles
  obtain ⟨frozen, freezes, hashes⟩ := stores.hashes
  rw [hash] at hashes
  refine ⟨flow, compiled, row, posted, compiles, stores.stored, id, stores.graphHash.trans hash,
    ⟨graph, ?_, hash, addresses⟩, ?_⟩
  · rw [stores.graphId]
    exact found
  · rintro tables (rfl | rfl)
    · exact validateComposeDeployment_eq_ok stores.owned stores.compiles freezes hashes
    · refine validateComposeDeployment_eq_ok (stores.authoring.owned stores.owned) ?_ ?_ hashes
      · rw [stores.authoring.nodesOf]
        exact stores.compiles
      · rw [stores.authoring.nodesOf]
        exact freezes

end Composition

/-- **Along every history, a flow snapshot that `compose_deployment` stores is consistent with the
graph it was composed from exactly if the version had no compiled graph yet or one with the same
hash.** -/
theorem consistent_iff (libraries : Libraries) (tables : Tables)
    (addressed : tables.Addressed libraries)
    (calls : List Call) (composition : Composition) (of : composition.Of libraries tables calls) :
    composition.Consistent libraries ↔ composition.Fitting libraries := by
  constructor
  · exact Composition.fitting_of_consistent of
  · obtain ⟨past, -, before⟩ := of.1
    have addressed' : composition.before.Addressed libraries := by
      rw [before]
      exact addressed_history addressed past
    exact Composition.consistent_of_fitting addressed' of

variable (definition : FlowGraphDefinition)

def composeRequest : DeploymentComposeRequest where
  flowId := 1
  flowVersionId := 2
  principalId := "someone"
  environment := "default"
  graphDefinition := some definition
  runtimePolicyDefinition := none
  toolCatalog := none
  llmProviderConfigHash := none
  bindings := []

def deploy : Call := ⟨7, plainEnvironment, .composeDeployment (composeRequest definition)⟩

theorem exists_composition (past : List Call)
    (passed : Program.passes
      (composeDeployment plainLibraries plainEnvironment 7 (composeRequest definition))
      (history plainLibraries publishedTables past) = true) :
    ∃ response later, Composition.Of plainLibraries ⟨history plainLibraries publishedTables past, 7,
      plainEnvironment, composeRequest definition, response, later⟩ publishedTables
        (past ++ [deploy definition]) := by
  obtain ⟨response, later, run⟩ := Program.passes_iff.mp passed
  exact ⟨response, later, ⟨past, List.prefix_refl _, rfl⟩, rfl, run⟩

theorem addressed_publishedTables : publishedTables.Addressed plainLibraries :=
  ⟨List.nodup_nil, nofun, nofun⟩

theorem first_graph_addressed :
    ∃ graph ∈ (history plainLibraries publishedTables [deploy singleNode]).graphSnapshots,
      plainLibraries.Addresses graph.snapshot graph.graphHash := by
  obtain ⟨graph, compiled⟩ := List.exists_mem_of_length_pos
    (l := (history plainLibraries publishedTables [deploy singleNode]).graphSnapshots)
      (by decide +kernel)
  exact ⟨graph, compiled,
    (compiled_graphs_addressed _ ⟨_, addressed_publishedTables⟩ [deploy singleNode] graph
      compiled).1⟩

/-- The first graph deployed for a version is consistent. -/
theorem first_deployment_consistent :
    ∃ composition, Composition.Of plainLibraries composition publishedTables
      ([] ++ [deploy singleNode]) ∧ composition.Consistent plainLibraries := by
  obtain ⟨response, later, of⟩ := exists_composition singleNode [] (by decide +kernel)
  exact ⟨_, of, (consistent_iff _ _ addressed_publishedTables _ _ of).mpr nofun⟩

/-- A second graph is deployed under the compiled graph and the hash of the first. -/
theorem second_deployment_inconsistent :
    ¬ ∀ composition, Composition.Of plainLibraries composition publishedTables
        ([deploy singleNode] ++ [deploy twoNodes]) → composition.Consistent plainLibraries := by
  intro all
  obtain ⟨response, later, of⟩ :=
    exists_composition twoNodes [deploy singleNode] (by decide +kernel)
  have fitting := Composition.fitting_of_consistent of (all _ of)
  have differ :
      (((history plainLibraries publishedTables [deploy singleNode]).getGraphSnapshot 2).any
        fun graph =>
      (compileGraph plainLibraries twoNodes).toOption.any fun compiled =>
        graph.graphHash ≠ compiled.2) = true := by
    decide +kernel
  obtain ⟨graph, found, compilesOther⟩ := (Option.any_eq_true _ _).mp differ
  cases compiles : compileGraph plainLibraries twoNodes with
  | error error => simp [compiles, Except.toOption] at compilesOther
  | ok compiled =>
    have other :
        graph.graphHash ≠ compiled.2 := by simpa [compiles, Except.toOption] using compilesOther
    exact other (fitting graph found twoNodes compiled rfl compiles)

end AgentOrchestration.FlowsService
