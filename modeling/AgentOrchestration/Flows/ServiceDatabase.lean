import AgentOrchestration.Flows.ServiceInvariants

/-!
# The service's tables as the database of the runs

The authoring service keeps the tables a run is created from, with more columns than
a run reads. `Tables.over` forgets those. A write of the service is then the write of
`Flows.Deployments` to the database, so that whatever the service is asked, it leaves a
well-formed one.
-/

namespace AgentOrchestration.FlowsService

set_option autoImplicit false

open Execution (Database FlowRow FlowVersionRow GraphSnapshotRow)
open Flows (OwnGraph PointersAgree)
open Table (byKey byKey_eq_none_iff byKey_map mem_of_byKey key_of_byKey)

/-! ## Writes -/

def FlowGraphSnapshotRow.toRow (row : FlowGraphSnapshotRow) : GraphSnapshotRow :=
  ⟨row.flowGraphSnapshotId, row.flowVersionId⟩

def FlowSnapshotRow.toRow (row : FlowSnapshotRow) : Execution.FlowSnapshotRow :=
  ⟨row.flowSnapshotId, row.flowVersionId, some row.flowGraphSnapshotId⟩

/-- The database of the runs, over these tables of the flows domain. -/
def Tables.over (db : Database) (tables : Tables) : Database :=
  { db with
    flows := tables.flows
    versions := tables.versions
    graphSnapshots := tables.graphSnapshots.map FlowGraphSnapshotRow.toRow
    flowSnapshots := tables.flowSnapshots.map FlowSnapshotRow.toRow
    deployments := tables.deployments }

def Tables.ids (tables : Tables) : List ℕ :=
  tables.flows.map FlowRow.flowId ++ tables.versions.map FlowVersionRow.flowVersionId ++
    tables.graphSnapshots.map FlowGraphSnapshotRow.flowGraphSnapshotId ++
    tables.flowSnapshots.map FlowSnapshotRow.flowSnapshotId

/-- A well-formed database whose ids all come before the next one. -/
structure Tables.Sound (db : Database) (tables : Tables) : Prop where
  wellFormed : (tables.over db).WellFormed
  below : ∀ id ∈ tables.ids, id < tables.nextId

section

variable {db : Database} {tables : Tables} (sound : tables.Sound db)

include sound

theorem Tables.Sound.unused {ρ : Type} {key : ρ → ℕ} {rows : List ρ}
    (among : ∀ row ∈ rows, key row ∈ tables.ids) : byKey key rows tables.nextId = none :=
  byKey_eq_none_iff.mpr fun row mem => (sound.below _ (among row mem)).ne

/-- Storing a compiled graph is `createFlowGraphSnapshot`. -/
theorem over_insertGraphSnapshot {flowVersionId : ℕ}
    (fresh : tables.getGraphSnapshot flowVersionId = none) (snapshot graphHash compiledBy) :
    (tables.insertGraphSnapshot flowVersionId snapshot graphHash compiledBy).over db
      = Flows.createFlowGraphSnapshot (tables.over db) flowVersionId tables.nextId := by
  have unused : (tables.over db).getFlowGraphSnapshot tables.nextId = none :=
    sound.unused (by grind [Tables.ids, Tables.over, FlowGraphSnapshotRow.toRow])
  have first : (tables.over db).getFlowGraphSnapshotByFlowVersion flowVersionId = none :=
    (byKey_map (fun _ => rfl) _).trans (Option.map_eq_none_iff.mpr fresh)
  rw [Flows.createFlowGraphSnapshot, if_pos ⟨unused, first⟩]
  simp [Tables.insertGraphSnapshot, Tables.over, FlowGraphSnapshotRow.toRow]

/-- The flow snapshot of a version is found by its version as by its id. -/
theorem version_iff_id {row existing : FlowSnapshotRow} (mem : row ∈ tables.flowSnapshots)
    (there : existing ∈ tables.flowSnapshots) :
    row.flowVersionId = existing.flowVersionId ↔
      row.flowSnapshotId = existing.flowSnapshotId := by
  have inside := List.mem_map_of_mem (f := FlowSnapshotRow.toRow) mem
  have named := List.mem_map_of_mem (f := FlowSnapshotRow.toRow) there
  constructor
  · intro version
    exact congrArg Execution.FlowSnapshotRow.flowSnapshotId
      (sound.wellFormed.flowSnapshotVersions.eq inside named version)
  · intro id
    exact congrArg Execution.FlowSnapshotRow.flowVersionId
      (sound.wellFormed.flowSnapshotKeys.eq inside named id)

/-- Storing a flow snapshot is `upsertFlowSnapshot`. -/
theorem over_saveFlowSnapshot (flowVersionId content) :
    (tables.saveFlowSnapshot flowVersionId content).over db
      = Flows.upsertFlowSnapshot (tables.over db) ⟨content.flowGraphSnapshotId, flowVersionId⟩
          tables.nextId := by
  have read : (tables.over db).getFlowSnapshotByFlowVersion flowVersionId
      = (tables.getFlowSnapshot flowVersionId).map FlowSnapshotRow.toRow :=
    byKey_map (fun _ => rfl) _
  unfold Flows.upsertFlowSnapshot Tables.saveFlowSnapshot
  rw [read]
  cases found : tables.getFlowSnapshot flowVersionId with
  | some existing =>
    simp only [Tables.over, Option.isSome_some, if_true, Option.map_some, List.map_map]
    congr 1
    refine List.map_congr_left fun row mem => ?_
    have same := version_iff_id sound mem (mem_of_byKey found)
    rw [key_of_byKey found] at same
    by_cases version : row.flowVersionId = flowVersionId
    · simp [FlowSnapshotRow.toRow, version, same.mp version]
    · simp [FlowSnapshotRow.toRow, version, mt same.mpr version]
  | none =>
    have unused : (tables.over db).getFlowSnapshotById tables.nextId = none :=
      sound.unused (by grind [Tables.ids, Tables.over, FlowSnapshotRow.toRow])
    simp only [Option.isSome_none, Bool.false_eq_true, if_false, Option.map_none, unused, if_true]
    simp [Tables.over, FlowSnapshotRow.toRow]

/-! ## Whole histories -/

theorem Tables.Sound.step {later : Tables} (wf : (later.over db).WellFormed)
    (taken : ∀ id ∈ later.ids, id ∈ tables.ids ∨ id < later.nextId)
    (onward : tables.nextId ≤ later.nextId) : later.Sound db :=
  ⟨wf, fun id mem => (taken id mem).elim (fun old => (sound.below id old).trans_le onward)
    fun new => new⟩

end

theorem tolerates_sound (db : Database) (libraries : Libraries) :
    Tolerates libraries (Tables.Sound db) where
  flow tables tenantId sound := by
    have fresh : (tables.over db).getFlow tables.nextId = none :=
      sound.unused (by grind [Tables.ids, Tables.over])
    refine sound.step ?_ (by grind [Tables.ids]) (Nat.le_succ _)
    exact { sound.wellFormed with flowKeys := sound.wellFormed.flowKeys.append fresh }
  version tables flowId sound := by
    have fresh : (tables.over db).getFlowVersion tables.nextId = none :=
      sound.unused (by grind [Tables.ids, Tables.over])
    refine sound.step ?_ (by grind [Tables.ids]) (Nat.le_succ _)
    exact { sound.wellFormed with versionKeys := sound.wellFormed.versionKeys.append fresh }
  status tables flowVersionId status sound := by
    refine sound.step (Flows.wellFormed_mapVersions sound.wellFormed ?_) ?_ (le_refl _)
    · grind
    · grind [Tables.ids, Tables.setStatus]
  active tables flowId flowVersionId sound := by
    refine sound.step (Flows.wellFormed_upsertActiveFlowVersion sound.wellFormed flowId
      flowVersionId) ?_ (le_refl _)
    grind [Tables.ids, Tables.setActive]
  graph tables flowVersionId snapshot graphHash compiledBy _ fresh sound := by
    refine sound.step ?_ ?_ (Nat.le_succ _)
    · rw [over_insertGraphSnapshot sound fresh]
      exact Flows.wellFormed_createFlowGraphSnapshot sound.wellFormed _ _
    · grind [Tables.ids, Tables.insertGraphSnapshot]
  snapshot tables flowVersionId content compiled sound := by
    obtain ⟨graph, mem, named, rfl⟩ := compiled
    refine sound.step ?_ ?_ ?_
    · rw [over_saveFlowSnapshot sound, ← named]
      exact Flows.wellFormed_upsertFlowSnapshot sound.wellFormed (List.mem_map_of_mem mem) _
    · grind [Tables.ids, Tables.saveFlowSnapshot]
    · grind [Tables.saveFlowSnapshot]
  deployment tables flowId flowVersionId flowSnapshotId environment frozen sound := by
    obtain ⟨row, mem, rfl, rfl⟩ := frozen
    refine sound.step ?_ ?_ (Nat.le_succ _)
    · exact Flows.wellFormed_upsertFlowDeployment sound.wellFormed flowId
        (List.mem_map_of_mem mem) environment tables.nextId
    · grind [Tables.ids, Tables.replaceDeployment]
  others tables later same sound := by
    refine sound.step ?_ ?_ same.nextId
    · unfold Tables.over
      rw [same.flows, same.versions, same.graphSnapshots, same.flowSnapshots, same.deployments]
      exact sound.wellFormed
    · grind [Tables.ids, same.flows, same.versions, same.graphSnapshots, same.flowSnapshots]

/-- **Whatever the service was asked, a run executes its own version's graph exactly when the
pointers that the service left agree.** -/
theorem ownGraph_iff_after_service {libraries : Libraries} {db : Database} {tables : Tables}
    (sound : tables.Sound db) (calls : List Call) {tenantId env req} {run : Execution.CreatedRun}
    (made : Execution.Created ((history libraries tables calls).over db) tenantId env req run) :
    OwnGraph (Execution.createFlowRun ((history libraries tables calls).over db) tenantId env
        req).1 run ↔
      PointersAgree ((history libraries tables calls).over db) run.flowId := by
  have wf := ((tolerates_sound db libraries).history sound calls).wellFormed
  rw [Flows.recorded_iff wf made, Flows.pointersAgree_iff (Flows.version_of_activeFor made.active)]

end AgentOrchestration.FlowsService
