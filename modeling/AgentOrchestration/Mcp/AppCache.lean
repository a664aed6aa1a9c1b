import AgentOrchestration.CanonicalJson

/-!
# The cache of tenant MCP apps

The gateway builds an app from the specification of a server, and serves it again for every
specification with the same `_spec_cache_key`. The key leaves out the descriptions of tools and
the names and titles of prompts.
-/

namespace AgentOrchestration.Mcp

set_option autoImplicit false

structure McpServerToolBinding where
  toolConfigId : ℕ
  mcpName : String
  description : String
  requestSchema : Fields
  responseSchema : Option Fields

/-- A row of `prompts`. -/
structure UserPrompt where
  userPromptId : ℕ
  slug : String
  title : String
  content : String

structure McpServerBuildSpec where
  tenantId : ℕ
  mcpServerId : ℕ
  tools : List McpServerToolBinding
  vectorStoreIds : List ℕ
  prompts : List UserPrompt
  flowSnapshotId : Option ℕ := none
  flowDeploymentId : Option ℕ := none
  outboundAuthorizationSecretRef : Option String := none

/-! ## The key -/

/-- The prefixes of `sha256` digests, without collisions: of texts, and of `json.dumps(…,
sort_keys=True)`, which tells dictionaries apart up to the order of their entries. -/
structure Digests (η : Type) where
  text : String → η
  text_injective : Function.Injective text
  json : Value → η
  json_eq_iff : ∀ first second, json first = json second ↔ first.sortKeys = second.sortKeys

variable {η : Type} (digests : Digests η)

def toolKey (binding : McpServerToolBinding) : ℕ × String × η × η :=
  (binding.toolConfigId, binding.mcpName, digests.json (.dict binding.requestSchema),
    digests.json (.dict (binding.responseSchema.getD [])))

def promptKey (prompt : UserPrompt) : ℕ × η := (prompt.userPromptId, digests.text prompt.content)

def specCacheKey (spec : McpServerBuildSpec) :=
  (spec.mcpServerId, spec.tools.map (toolKey digests), spec.vectorStoreIds,
    spec.prompts.map (promptKey digests), spec.flowSnapshotId, spec.flowDeploymentId,
    spec.outboundAuthorizationSecretRef.getD "")

/-! ## The app -/

structure McpHttpProxyTool where
  name : String
  description : Option String
  parameters : Fields
  outputSchema : Option Fields
  execToolConfigId : ℕ
  execTenantId : ℕ

structure RegisteredPrompt where
  name : String
  description : String
  text : String

/-- What is registered with the app; `search_knowledge` with the tenant and the stores it
searches. -/
structure HttpApp where
  serverName : ℕ
  tools : List McpHttpProxyTool
  searchKnowledge : Option (ℕ × List ℕ)
  prompts : List RegisteredPrompt

def proxyTool (tenantId : ℕ) (binding : McpServerToolBinding) : McpHttpProxyTool :=
  { name := binding.mcpName
    description := if binding.description = "" then none else some binding.description
    parameters := binding.requestSchema, outputSchema := binding.responseSchema
    execToolConfigId := binding.toolConfigId, execTenantId := tenantId }

def registeredPrompt (prompt : UserPrompt) : RegisteredPrompt :=
  { name := prompt.slug
    description := if prompt.title = "" then prompt.slug else prompt.title
    text := prompt.title ++ "\n\n" ++ prompt.content }

def buildHttpAppFromSpec (spec : McpServerBuildSpec) : HttpApp :=
  { serverName := spec.mcpServerId, tools := spec.tools.map (proxyTool spec.tenantId)
    searchKnowledge := if spec.vectorStoreIds = [] then none
                       else some (spec.tenantId, spec.vectorStoreIds)
    prompts := spec.prompts.map registeredPrompt }

abbrev sortedSchema (schema : Fields) : Value := (Value.dict schema).sortKeys

def McpHttpProxyTool.seen (tool : McpHttpProxyTool) :=
  (tool.name, tool.description, sortedSchema tool.parameters, tool.outputSchema.map sortedSchema,
    tool.execToolConfigId, tool.execTenantId)

def HttpApp.Same (first second : HttpApp) : Prop :=
  first.serverName = second.serverName ∧
    first.tools.map McpHttpProxyTool.seen = second.tools.map McpHttpProxyTool.seen ∧
    first.searchKnowledge = second.searchKnowledge ∧ first.prompts = second.prompts

/-- What the key leaves out of a tool, and the app shows. -/
def McpServerToolBinding.unkeyed (binding : McpServerToolBinding) : String × Bool :=
  (binding.description, binding.responseSchema.isSome)

def UserPrompt.unkeyed (prompt : UserPrompt) : String × String := (prompt.slug, prompt.title)

/-! ## Specifications with one key -/

theorem seen_eq_iff {tenantId : ℕ} {first second : McpServerToolBinding}
    (same : toolKey digests first = toolKey digests second) :
    (proxyTool tenantId first).seen = (proxyTool tenantId second).seen ↔
      first.unkeyed = second.unkeyed := by
  simp only [toolKey, Prod.mk.injEq, digests.json_eq_iff] at same
  obtain ⟨configId, name, request, response⟩ := same
  have described (text text' : String) : (if text = "" then none else some text) =
      (if text' = "" then none else some text') ↔ text = text' := by
    split <;> split <;> simp_all [eq_comm]
  have output : first.responseSchema.map sortedSchema = second.responseSchema.map sortedSchema ↔
      first.responseSchema.isSome = second.responseSchema.isSome := by
    cases old : first.responseSchema <;> cases new : second.responseSchema <;> simp_all
  simp only [McpHttpProxyTool.seen, proxyTool, McpServerToolBinding.unkeyed,
    Prod.mk.injEq, configId, name, request, described, output, true_and, and_true]

theorem registeredPrompt_eq_iff {first second : UserPrompt}
    (same : promptKey digests first = promptKey digests second) :
    registeredPrompt first = registeredPrompt second ↔ first.unkeyed = second.unkeyed := by
  have content := digests.text_injective (Prod.mk.inj same).2
  simp only [registeredPrompt, UserPrompt.unkeyed, RegisteredPrompt.mk.injEq,
    Prod.mk.injEq, content]
  constructor
  · rintro ⟨slug, -, text⟩
    exact ⟨slug, by simpa using text⟩
  · rintro ⟨slug, title⟩
    simp only [slug, title, and_self]

/-- Lists with the same keys, whose elements agree in one respect exactly if they do in another. -/
theorem map_eq_map_iff_of_keys {α κ β γ : Type} {key : α → κ} {f : α → β} {g : α → γ}
    (agree : ∀ a b, key a = key b → (f a = f b ↔ g a = g b)) {xs ys : List α}
    (keys : xs.map key = ys.map key) : xs.map f = ys.map f ↔ xs.map g = ys.map g := by
  induction xs generalizing ys with
  | nil =>
    cases List.map_eq_nil_iff.mp keys.symm
    simp
  | cons x xs ih =>
    cases ys with
    | nil => cases keys
    | cons y ys =>
      obtain ⟨head, tail⟩ := List.cons.inj keys
      simp only [List.map_cons, List.cons.injEq, agree x y head, ih tail]

/-- **When two specifications with one key build the same app**: exactly if their tools have the
same descriptions and agree in having an output schema, and their prompts have the same names and
titles. -/
theorem same_registrations_iff {first second : McpServerBuildSpec}
    (same : specCacheKey digests first = specCacheKey digests second)
    (tenant : first.mcpServerId = second.mcpServerId → first.tenantId = second.tenantId) :
    (buildHttpAppFromSpec first).Same (buildHttpAppFromSpec second) ↔
      first.tools.map McpServerToolBinding.unkeyed = second.tools.map McpServerToolBinding.unkeyed ∧
        first.prompts.map UserPrompt.unkeyed = second.prompts.map UserPrompt.unkeyed := by
  simp only [specCacheKey, Prod.mk.injEq] at same
  obtain ⟨server, tools, stores, prompts, -⟩ := same
  simp only [HttpApp.Same, buildHttpAppFromSpec, List.map_map, server, stores,
    tenant server, true_and]
  exact and_congr (map_eq_map_iff_of_keys (fun _ _ => seen_eq_iff digests) tools)
    (map_eq_map_iff_of_keys (fun _ _ => registeredPrompt_eq_iff digests) prompts)

def plainDigests : Digests (String ⊕ Value) :=
  ⟨.inl, Sum.inl_injective, fun value => .inr value.sortKeys, fun _ _ => Sum.inr.inj_iff⟩

def searchServer (description : String) (requestSchema : Fields) : McpServerBuildSpec :=
  { tenantId := 1, mcpServerId := 2, tools := [⟨3, "search", description, requestSchema, none⟩]
    vectorStoreIds := [], prompts := [] }

def searchSchema : Fields := [("type", .str "object"), ("required", .list [.str "query"])]

/-- The entries of the schema in another order do not make another app. -/
theorem reordered_schema_same :
    searchServer "Search." searchSchema ≠ searchServer "Search." searchSchema.reverse ∧
      (buildHttpAppFromSpec (searchServer "Search." searchSchema)).Same
        (buildHttpAppFromSpec (searchServer "Search." searchSchema.reverse)) := by
  have sorted : (Value.dict searchSchema).sortKeys =
      (Value.dict searchSchema.reverse).sortKeys := by
    decide +kernel
  have key : specCacheKey plainDigests (searchServer "Search." searchSchema) =
      specCacheKey plainDigests (searchServer "Search." searchSchema.reverse) := by
    simp [specCacheKey, toolKey, searchServer, plainDigests, sorted]
  exact ⟨by simp [searchServer, searchSchema],
    (same_registrations_iff plainDigests key fun _ => rfl).mpr ⟨rfl, rfl⟩⟩

/-- After the description of the tool is changed the old app is served. -/
theorem stale_description : specCacheKey plainDigests (searchServer "Old." []) =
      specCacheKey plainDigests (searchServer "New." []) ∧
    ¬ (buildHttpAppFromSpec (searchServer "Old." [])).Same
      (buildHttpAppFromSpec (searchServer "New." [])) := by
  refine ⟨rfl, fun same => ?_⟩
  have tools := same.2.1
  simp [buildHttpAppFromSpec, searchServer, McpHttpProxyTool.seen, proxyTool] at tools

end AgentOrchestration.Mcp
