import AgentOrchestration.Flows.ServiceInvariants

/-!
# Compilation and other tenants

`compile_flow_graph` on two databases with the same rows of the caller's tenant. All it reads is the
tenant's, but the hash of a compiled graph is unique over the rows of all tenants.
-/

namespace AgentOrchestration.FlowsService

set_option autoImplicit false

open Execution (ServiceError FlowRow FlowVersionRow)
open Program
  (bind_eq_ok raiseIf_bind_eq_ok ofOption_bind_eq_ok get_bind_apply modify_bind_apply pure_eq_ok
  passes_iff)
open Table (UniqueKeys byKey_agree filter_agree find_agree)

variable (tenantId : ℕ)

/-! ## The rows of a tenant -/

section

variable (tables : Tables)

def Tables.ownsFlow (flowId : ℕ) : Bool :=
  (tables.getFlow flowId).any fun flow => flow.tenantId = tenantId

def Tables.ownsVersion (flowVersionId : ℕ) : Bool :=
  (tables.getFlowVersion flowVersionId).any fun version => tables.ownsFlow tenantId version.flowId

def Tables.Keyed : Prop :=
  UniqueKeys FlowRow.flowId tables.flows ∧ UniqueKeys FlowVersionRow.flowVersionId tables.versions

def Tables.ofTenant : List FlowRow × List FlowVersionRow × List NodeRow × List FlowGraphDraftRow ×
    List FlowGraphSnapshotRow :=
  (tables.flows.filter fun row => row.tenantId = tenantId,
    tables.versions.filter fun row => tables.ownsFlow tenantId row.flowId,
    tables.nodes.filter fun row => tables.ownsVersion tenantId row.flowVersionId,
    tables.drafts.filter fun row => tables.ownsVersion tenantId row.flowVersionId,
    tables.graphSnapshots.filter fun row => tables.ownsVersion tenantId row.flowVersionId)

end

/-! ## When a compilation succeeds -/

variable (libraries : Libraries) (request : FlowGraphCompileRequest)

/-- Every check passes that concerns rows of the tenant; `compiled` is the graph and its hash. -/
structure Ready (tables : Tables) (draft : FlowGraphDraftRow) (compiled : Value × String) :
    Prop where
  flow : ∃ flow, tables.getFlow request.flowId = some flow ∧ flow.tenantId = tenantId
  version : ∃ version, tables.getFlowVersion request.flowVersionId = some version ∧
    version.flowId = request.flowId ∧ version.status = .published
  drafted : tables.getDraft request.flowVersionId = some draft
  validated : draft.status = .validated
  valid : FlowGraphDraftValidator.validate libraries.draft draft.definition = .ok ()
  memory : (tables.nodesOf request.flowVersionId).countP (fun row => row.flags.allowMemoryWrite) ≤ 1
  compiles : compileGraph libraries draft.definition = .ok compiled
  fresh : tables.getGraphSnapshot request.flowVersionId = none
  unused : ∀ row ∈ tables.graphSnapshots.filter fun row =>
    tables.ownsVersion tenantId row.flowVersionId,
    row.graphHash ≠ compiled.2

def Taken (tables : Tables) (graphHash : String) : Prop :=
  ∃ row ∈ tables.graphSnapshots, tables.ownsVersion tenantId row.flowVersionId = false ∧
    row.graphHash = graphHash

def Compilable (tables : Tables) : Prop :=
  Program.passes (compileFlowGraph libraries tenantId request) tables = true

section

variable {tables after : Tables} {value : PUnit}

theorem ofExcept_bind_eq_ok {α : Type} {verdict : Except ServiceError α} {k : α → Service PUnit} :
    (ofExcept verdict >>= k) tables = .ok value after ↔
      ∃ val, verdict = .ok val ∧ k val tables = .ok value after := by
  rw [bind_eq_ok]
  cases verdict with
  | ok val => simp [ofExcept, pure_eq_ok]
  | error raised => simp [ofExcept, throw, throwThe, MonadExceptOf.throw, EStateM.throw]

theorem ofValidator_bind_eq_ok {verdict k} : (ofValidator verdict >>= k) tables = .ok value after ↔
      verdict = .ok () ∧ k ⟨⟩ tables = .ok value after := by
  rw [bind_eq_ok]
  cases verdict with
  | ok val =>
    simp only [ofValidator, pure_eq_ok, true_and]
    exact ⟨fun ⟨_, _, same, run⟩ => same ▸ run, fun run => ⟨⟨⟩, tables, rfl, run⟩⟩
  | error raised => simp [ofValidator, throw, throwThe, MonadExceptOf.throw, EStateM.throw]

variable {tenantId libraries request}

theorem compilable_iff : Compilable tenantId libraries request tables ↔
    ∃ draft compiled, Ready tenantId libraries request tables draft compiled ∧
      ¬ Taken tenantId tables compiled.2 := by
  simp only [Compilable, passes_iff, compileFlowGraph, publishedVersion, tenantFlow, flowVersion,
    assertAtMostOneMemoryWrite, createFlowGraphSnapshot, bind_assoc, pure_bind, get_bind_apply,
    ofOption_bind_eq_ok, raiseIf_bind_eq_ok, ofValidator_bind_eq_ok, ofExcept_bind_eq_ok,
    modify_bind_apply, pure_eq_ok, not_not, not_lt, Option.not_isSome_iff_eq_none]
  constructor
  · rintro ⟨_, _, flow, hasFlow, own, version, hasVersion, ofFlow, published, draft,
      drafted, validated, valid, memory, compiled, compiles, fresh, unused, -⟩
    have free : ∀ row ∈ tables.graphSnapshots, row.graphHash ≠ compiled.2 :=
      fun row mem same => unused ⟨row, mem, same⟩
    refine ⟨draft, compiled,
      ⟨⟨flow, hasFlow, own⟩, ⟨version, hasVersion, ofFlow, published⟩, drafted,
      validated, valid, memory, compiles, fresh, fun row mem =>
        free row (List.mem_filter.mp mem).1⟩, ?_⟩
    rintro ⟨row, mem, -, same⟩
    exact free row mem same
  · rintro ⟨draft, compiled, ready, untaken⟩
    obtain ⟨flow, hasFlow, own⟩ := ready.flow
    obtain ⟨version, hasVersion, ofFlow, published⟩ := ready.version
    refine ⟨⟨⟩, _, flow, hasFlow, own, version, hasVersion, ofFlow, published, draft, ready.drafted,
      ready.validated, ready.valid, ready.memory, compiled, ready.compiles, ready.fresh, ?_,
      trivial, rfl⟩
    rintro ⟨row, mem, same⟩
    cases owned : tables.ownsVersion tenantId row.flowVersionId with
    | true => exact ready.unused row (List.mem_filter.mpr ⟨mem, owned⟩) same
    | false => exact untaken ⟨row, mem, owned, same⟩

theorem compilable_iff_of_ready {draft compiled}
    (ready : Ready tenantId libraries request tables draft compiled) :
    Compilable tenantId libraries request tables ↔ ¬ Taken tenantId tables compiled.2 := by
  rw [compilable_iff]
  refine ⟨?_, fun untaken => ⟨draft, compiled, ready, untaken⟩⟩
  rintro ⟨draft', compiled', ready', untaken⟩
  obtain rfl := Option.some.inj (ready.drafted.symm.trans ready'.drafted)
  rwa [Except.ok.inj (ready.compiles.symm.trans ready'.compiles)]

end

variable {tenantId libraries request}

/-- The tenant's rows decide every check but the one for hashes of other tenants. -/
theorem Ready.of_agree {first second draft compiled}
    (agree : first.ofTenant tenantId = second.ofTenant tenantId) (keyed : second.Keyed)
    (ready : Ready tenantId libraries request first draft compiled) :
    Ready tenantId libraries request second draft compiled := by
  simp only [Tables.ofTenant, Prod.mk.injEq] at agree
  obtain ⟨flows, versions, nodes, drafts, graphs⟩ := agree
  obtain ⟨flow, hasFlow, own⟩ := ready.flow
  obtain ⟨version, hasVersion, ofFlow, published⟩ := ready.version
  have ownsFlow :
      first.ownsFlow tenantId version.flowId := by simp [Tables.ownsFlow, ofFlow, hasFlow, own]
  have owns : first.ownsVersion tenantId request.flowVersionId := by
    simp [Tables.ownsVersion, hasVersion, ownsFlow]
  obtain ⟨hasFlow', -⟩ := byKey_agree flows keyed.1 hasFlow (by simp [own])
  obtain ⟨hasVersion', ownsFlow'⟩ := byKey_agree versions keyed.2 hasVersion ownsFlow
  have owns' : second.ownsVersion tenantId request.flowVersionId := by
    simp only [Tables.ownsVersion, Tables.getFlowVersion, hasVersion', Option.any_some, ownsFlow']
  have drafted : first.getDraft request.flowVersionId = second.getDraft request.flowVersionId :=
    find_agree drafts (by simp +contextual [owns]) (by simp +contextual [owns'])
  have flagged : first.nodesOf request.flowVersionId = second.nodesOf request.flowVersionId :=
    filter_agree nodes (by simp +contextual [owns]) (by simp +contextual [owns'])
  have compiled :
      first.getGraphSnapshot request.flowVersionId =
        second.getGraphSnapshot request.flowVersionId :=
    find_agree graphs (by simp +contextual [owns]) (by simp +contextual [owns'])
  exact ⟨⟨flow, hasFlow', own⟩, ⟨version, hasVersion', ofFlow, published⟩, drafted ▸ ready.drafted,
    ready.validated, ready.valid, flagged ▸ ready.memory, ready.compiles, compiled ▸ ready.fresh,
    graphs ▸ ready.unused⟩

theorem Compilable.of_agree {first second : Tables}
    (agree : first.ofTenant tenantId = second.ofTenant tenantId)
    (keyed : second.Keyed)
      (alike : ∀ draft compiled, Ready tenantId libraries request first draft compiled →
      (Taken tenantId first compiled.2 ↔ Taken tenantId second compiled.2))
    (compilable : Compilable tenantId libraries request first) :
    Compilable tenantId libraries request second := by
  obtain ⟨draft, compiled, ready, untaken⟩ := compilable_iff.mp compilable
  rw [alike draft compiled ready] at untaken
  exact compilable_iff.mpr ⟨draft, compiled, ready.of_agree agree keyed, untaken⟩

/-- Two databases with the same rows of the tenant take or refuse a compilation alike exactly if the
hash of a graph that is ready is taken by other tenants in both or in neither. -/
theorem compile_flow_graph_independent_iff (tenantId : ℕ) (libraries : Libraries)
    (request : FlowGraphCompileRequest) (first second : Tables)
    (agree : first.ofTenant tenantId = second.ofTenant tenantId) (keyed : first.Keyed)
      (keyed' : second.Keyed) :
    (Compilable tenantId libraries request first ↔ Compilable tenantId libraries request second) ↔
      ∀ draft compiled, Ready tenantId libraries request first draft compiled →
        (Taken tenantId first compiled.2 ↔ Taken tenantId second compiled.2) := by
  constructor
  · intro alike draft compiled ready
    rw [compilable_iff_of_ready ready,
      compilable_iff_of_ready (ready.of_agree agree keyed')] at alike
    exact not_iff_not.mp alike
  · intro alike
    refine ⟨.of_agree agree keyed' alike, .of_agree agree.symm keyed fun draft compiled ready => ?_⟩
    exact (alike draft compiled (ready.of_agree agree.symm keyed)).symm

def sharedTables : Tables :=
  { publishedTables with
    flows := [⟨1, 7⟩, ⟨3, 8⟩], versions := [⟨2, 1, .published, true⟩, ⟨4, 3, .published, true⟩]
    drafts := [2, 4].map fun version => ⟨version, singleNode, .validated, "someone", none, none⟩ }

def compiledTables : Tables :=
  step plainLibraries sharedTables ⟨8, plainEnvironment, .compileFlowGraph ⟨3, 4, "another"⟩⟩

theorem ofTenant_compiledTables : sharedTables.ofTenant 7 =
    compiledTables.ofTenant 7 := by decide +kernel

theorem keyed_sharedTables : sharedTables.Keyed := ⟨by decide, by decide⟩

theorem keyed_compiledTables : compiledTables.Keyed := ⟨by decide +kernel, by decide +kernel⟩

theorem equal_graph_refused : Compilable 7 plainLibraries ⟨1, 2, "someone"⟩ sharedTables ∧
    ¬ Compilable 7 plainLibraries ⟨1, 2, "someone"⟩ compiledTables := by
  unfold Compilable
  decide +kernel

/-- A tenant cannot compile its draft once another tenant has compiled the same graph. -/
theorem compilation_seen_by_other_tenant : ¬ ∀ tenantId libraries request (first second : Tables),
      first.ofTenant tenantId = second.ofTenant tenantId →
      first.Keyed → second.Keyed →
        (Compilable tenantId libraries request first ↔
          Compilable tenantId libraries request second) := by
  intro alike
  obtain ⟨before, refused⟩ := equal_graph_refused
  exact refused
    ((alike _ _ _ _ _ ofTenant_compiledTables keyed_sharedTables keyed_compiledTables).mp before)

/-- The hash of the draft is taken in the second database only. -/
theorem equal_graph_hash_taken :
    ¬ ∀ draft compiled, Ready 7 plainLibraries ⟨1, 2, "someone"⟩ sharedTables draft compiled →
      (Taken 7 sharedTables compiled.2 ↔ Taken 7 compiledTables compiled.2) := by
  intro alike
  obtain ⟨before, refused⟩ := equal_graph_refused
  exact refused
    (((compile_flow_graph_independent_iff _ _ _ _ _ ofTenant_compiledTables keyed_sharedTables
    keyed_compiledTables).mpr alike).mp before)

end AgentOrchestration.FlowsService
