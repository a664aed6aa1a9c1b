import Mathlib.Order.Nat
import Mathlib.Tactic.MkIffOfInductiveProp
import AgentOrchestration.Library.Interleaving

/-!
# Human SLA cases

The table of SLA cases, the writes of its repository, and `HumanSLAService`: a case is assigned,
resolved, and evaluated against the escalation rules of its policy. Every call of the repository is
one step of a thread.
-/

namespace AgentOrchestration.HumanSla

set_option autoImplicit false

open Interleaving (Thread)
open Program (after)

/-! ## The tables -/

inductive SLAStatus where
  | open
  | assigned
  | resolved
  | abandoned
  deriving DecidableEq

inductive SLAResolutionStatus where
  | resolved
  | unresolved
  | transferred
  | userAbandoned

/-- A row of `sla_case`; instants are in microseconds. -/
structure SLACase where
  slaCaseId : ℕ
  tenantId : ℕ
  status : SLAStatus
  humanAgentId : Option String
  resolutionStatus : Option SLAResolutionStatus
  resolutionSummary : Option String
  priority : Option String
  humanSlaPolicyId : Option ℕ
  currentEscalationLevel : ℕ
  slaBreached : Bool
  openedAt : ℤ

structure HumanSLAEscalationRule where
  level : ℕ
  triggerAfterHours : ℤ
  newPriority : String

/-- A policy with its rules, in the order in which `get_policy_with_rules` returns them. -/
structure HumanSLAPolicy where
  targetResolutionHours : Option ℤ
  escalationRules : List HumanSLAEscalationRule

abbrev Cases := List SLACase

/-- The arguments of a call for one case, and the policies that stand. -/
structure Target where
  policies : ℕ → Option HumanSLAPolicy
  slaCaseId : ℕ
  tenantId : ℕ

/-! ## The repository -/

section

variable (target : Target)

/-- The `where` clause of every query for one case. -/
def selects (case : SLACase) : Bool := case.slaCaseId = target.slaCaseId ∧
    case.tenantId = target.tenantId

def getCase (cases : Cases) : Option SLACase := cases.find? (selects target)

/-- `update(SLACase).where(…).values(…)`. -/
def updateCase (values : SLACase → SLACase) (cases : Cases) : Cases :=
  cases.map fun case => if selects target case then values case else case

end

def assignCase (humanAgentId : String) (case : SLACase) : SLACase :=
  { case with humanAgentId := some humanAgentId, status := .assigned }

structure SLACaseResolve where
  resolutionStatus : SLAResolutionStatus
  resolutionSummary : String
  humanAgentId : String

def resolveCase (payload : SLACaseResolve) (case : SLACase) : SLACase :=
  { case with
    status := .resolved
    resolutionStatus := some payload.resolutionStatus
    resolutionSummary := some payload.resolutionSummary
    humanAgentId := some payload.humanAgentId }

def updateCaseEscalation (rule : HumanSLAEscalationRule) (case : SLACase) : SLACase :=
  { case with priority := some rule.newPriority, currentEscalationLevel := rule.level }

def updateCaseSlaBreached (case : SLACase) : SLACase := { case with slaBreached := true }

/-! ## The service -/

/-- `elapsed_hours >= hours`. -/
def passed (elapsed hours : ℤ) : Bool := hours * 3600000000 ≤ elapsed

def triggered (elapsed : ℤ) (rule : HumanSLAEscalationRule) : Bool :=
  passed elapsed rule.triggerAfterHours

/-- The rule applies to a case of the level. -/
def fires (elapsed : ℤ) (level : ℕ) (rule : HumanSLAEscalationRule) : Bool :=
  triggered elapsed rule && level < rule.level

theorem fires_iff {elapsed : ℤ} {level : ℕ} {rule : HumanSLAEscalationRule} :
    fires elapsed level rule = true ↔ triggered elapsed rule = true ∧ level < rule.level := by
  simp [fires]

section

variable (target : Target)

/-- The loop over the rules, and what comes after it; the case is read again after every update. -/
def applyRules (elapsed : ℤ) (finish : Thread Cases Empty PUnit) :
    List HumanSLAEscalationRule → SLACase → Thread Cases Empty PUnit
  | [], _ => finish
  | rule :: rest, case =>
    if fires elapsed case.currentEscalationLevel rule then
      .act (updateCase target (updateCaseEscalation rule)) fun _ =>
        .act id fun cases =>
          match getCase target cases with
          | none => .done ⟨⟩
          | some case => applyRules elapsed finish rest case
    else applyRules elapsed finish rest case

/-- The policy's time to resolve the case has passed. -/
def breaches (elapsed : ℤ) (policy : HumanSLAPolicy) : Bool :=
  policy.targetResolutionHours.any (passed elapsed)

def markBreached (elapsed : ℤ) (policy : HumanSLAPolicy) : Thread Cases Empty PUnit :=
  if breaches elapsed policy then .act (updateCase target updateCaseSlaBreached) fun _ => .done ⟨⟩
  else .done ⟨⟩

/-- The evaluation once the case is read. -/
def evaluateCase (now : ℤ) (case : SLACase) : Thread Cases Empty PUnit :=
  match case.humanSlaPolicyId with
  | none => .done ⟨⟩
  | some policyId =>
    .act id fun _ =>
      match target.policies policyId with
      | none => .done ⟨⟩
      | some policy =>
        let elapsed := now - case.openedAt
        applyRules target elapsed (markBreached target elapsed policy) policy.escalationRules case

def evaluateSla (now : ℤ) : Thread Cases Empty PUnit :=
  .act id fun cases => (getCase target cases).elim (.done ⟨⟩) (evaluateCase target now)

end

/-! ## One evaluation -/

/-- What a write may do: the columns that select a case are left alone. -/
def KeepsKeys (values : SLACase → SLACase) : Prop :=
  ∀ case, (values case).slaCaseId = case.slaCaseId ∧ (values case).tenantId = case.tenantId

section

variable {target : Target} {cases : Cases} {case : SLACase}

theorem updateCase_id : updateCase target id cases = cases := by simp [updateCase]

section

variable {values values' : SLACase → SLACase} (keeps : KeepsKeys values)

include keeps

theorem selects_values (case : SLACase) : selects target (values case) = selects target case := by
  rw [selects, (keeps case).1, (keeps case).2, selects]

theorem getCase_of_found (found : getCase target cases = some case) :
    getCase target (updateCase target values cases) = some (values case) := by
  have hits : selects target ∘ (fun case => if selects target case then values case else case) =
      selects target := by
    funext case
    by_cases hit : selects target case
    · simp [hit, selects_values keeps]
    · simp [hit]
  rw [getCase, updateCase, List.find?_map, hits, show cases.find? (selects target) =
    some case from found, Option.map_some, if_pos (List.find?_some found)]

theorem updateCase_updateCase :
    updateCase target values' (updateCase target values cases) =
      updateCase target (values' ∘ values) cases := by
  simp only [updateCase, List.map_map]
  apply List.map_congr_left
  intro case _
  by_cases hit : selects target case
  · simp [hit, selects_values keeps]
  · simp [hit]

end

/-- The rule of the last update of the loop, from a level on. -/
def lastFired (elapsed : ℤ) : ℕ → List HumanSLAEscalationRule → Option HumanSLAEscalationRule
  | _, [] => none
  | level, rule :: rest =>
    if fires elapsed level rule then some ((lastFired elapsed rule.level rest).getD rule)
    else lastFired elapsed level rest

/-- All updates of the loop as one. -/
def escalate (last : Option HumanSLAEscalationRule) (case : SLACase) : SLACase :=
  last.elim case fun rule => updateCaseEscalation rule case

theorem keepsKeys_escalate (last : Option HumanSLAEscalationRule) : KeepsKeys (escalate last) := by
  intro case
  cases last <;> exact ⟨rfl, rfl⟩

variable {elapsed : ℤ} {rules : List HumanSLAEscalationRule}

theorem after_applyRules {finish : Thread Cases Empty PUnit} :
    ∀ {cases case}, getCase target cases = some case →
      after (applyRules target elapsed finish rules case).run cases = after finish.run
          (updateCase target (escalate (lastFired elapsed case.currentEscalationLevel rules))
            cases) := by
  induction rules with
  | nil => exact fun _ => congrArg (after finish.run) updateCase_id.symm
  | cons rule rest ih =>
    intro cases case found
    rw [applyRules, lastFired]
    by_cases fired : fires elapsed case.currentEscalationLevel rule = true
    · have keeps : KeepsKeys (updateCaseEscalation rule) := fun _ => ⟨rfl, rfl⟩
      have again := getCase_of_found keeps found
      have both : escalate (some ((lastFired elapsed rule.level rest).getD rule)) =
          escalate (lastFired elapsed rule.level rest) ∘ updateCaseEscalation rule := by
        cases lastFired elapsed rule.level rest <;> rfl
      rw [if_pos fired, if_pos fired, both, ← updateCase_updateCase keeps, Thread.after_act,
        Thread.after_act, id, again]
      exact ih again
    · rw [if_neg fired, if_neg fired, ih found]

/-- No rule that was triggered is of a higher level than `last`, or than `level` if `last` is
missing; and `last` is the first of its level. -/
def Decides (elapsed : ℤ) (level : ℕ) (rules : List HumanSLAEscalationRule)
    (last : Option HumanSLAEscalationRule) : Prop :=
  (∀ rule ∈ rules, triggered elapsed rule →
    rule.level ≤ last.elim level HumanSLAEscalationRule.level) ∧
    ∀ final ∈ last, level < final.level ∧
      rules.find? (fun rule => triggered elapsed rule && rule.level = final.level) = some final

theorem Decides.le {level last} (decides : Decides elapsed level rules last) :
    level ≤ last.elim level HumanSLAEscalationRule.level := by
  cases last with
  | none => exact le_rfl
  | some final => exact (decides.2 final rfl).1.le

theorem decides_lastFired :
    ∀ level, Decides elapsed level rules (lastFired elapsed level rules) := by
  induction rules with
  | nil => simp [lastFired, Decides]
  | cons rule rest ih =>
    intro level
    rw [lastFired]
    by_cases fired : fires elapsed level rule = true
    · rw [if_pos fired]
      obtain ⟨hasPassed, above⟩ := fires_iff.mp fired
      have later := ih rule.level
      cases last : lastFired elapsed rule.level rest with
      | none =>
        rw [last] at later
        simpa [Decides, hasPassed, above] using later
      | some final =>
        rw [last] at later
        obtain ⟨higher, first⟩ := later.2 final rfl
        rw [Option.getD_some]
        refine ⟨List.forall_mem_cons.mpr ⟨fun _ => higher.le, later.1⟩, ?_⟩
        rintro _ ⟨⟩
        refine ⟨above.trans higher, ?_⟩
        rw [List.find?_cons_of_neg (by simp [higher.ne])]
        exact first
    · rw [if_neg fired]
      have below : triggered elapsed rule = true → rule.level ≤ level :=
        fun has => Nat.not_lt.mp fun above => fired (fires_iff.mpr ⟨has, above⟩)
      have later := ih level
      refine ⟨List.forall_mem_cons.mpr ⟨fun has => (below has).trans later.le, later.1⟩,
        fun final is => ?_⟩
      obtain ⟨higher, first⟩ := later.2 final is
      refine ⟨higher, ?_⟩
      rw [List.find?_cons_of_neg]
      · exact first
      · simp only [Bool.and_eq_true, decide_eq_true_eq, not_and]
        intro has same
        exact absurd (below has) (by omega)

/-! ### The case that an evaluation leaves -/

variable (target) (now : ℤ)

def policyOf (case : SLACase) : Option HumanSLAPolicy := case.humanSlaPolicyId.bind target.policies

/-- The rule whose level and priority an evaluation leaves, if it changes them. -/
def due (policy : HumanSLAPolicy) (case : SLACase) : Option HumanSLAEscalationRule :=
  lastFired (now - case.openedAt) case.currentEscalationLevel policy.escalationRules

/-- What an evaluation that found `case` does to its row. -/
def assess (case : SLACase) : SLACase → SLACase :=
  (policyOf target case).elim id fun policy =>
    (if breaches (now - case.openedAt) policy then updateCaseSlaBreached
     else id) ∘ escalate (due now policy case)

variable {target}

theorem keepsKeys_assess : KeepsKeys (assess target now case) := by
  intro row
  unfold assess
  cases policyOf target case with
  | none => exact ⟨rfl, rfl⟩
  | some policy =>
    dsimp only [Option.elim_some]
    split <;> exact keepsKeys_escalate _ row

theorem after_evaluateSla (found : getCase target cases = some case) :
    after (evaluateSla target now).run cases =
      updateCase target (assess target now case) cases := by
  rw [evaluateSla, Thread.after_act, id, found, Option.elim_some, evaluateCase, assess, policyOf]
  cases case.humanSlaPolicyId with
  | none => exact updateCase_id.symm
  | some policyId =>
    simp only [Option.bind_some, Thread.after_act, id]
    cases target.policies policyId with
    | none => exact updateCase_id.symm
    | some policy =>
      simp only [Option.elim_some]
      rw [after_applyRules found, ← updateCase_updateCase (keepsKeys_escalate _), markBreached]
      split
      · rfl
      · exact updateCase_id.symm

theorem getCase_evaluateSla (found : getCase target cases = some case) :
    getCase target (after (evaluateSla target now).run cases) =
      some (assess target now case case) := by
  rw [after_evaluateSla now found, getCase_of_found (keepsKeys_assess now) found]

variable {policy : HumanSLAPolicy}

theorem decides_due (policy : HumanSLAPolicy) (case : SLACase) :
    Decides (now - case.openedAt) case.currentEscalationLevel policy.escalationRules
      (due now policy case) :=
  decides_lastFired _

theorem due_eq_none_iff : due now policy case = none ↔ ∀ rule ∈ policy.escalationRules,
    triggered (now - case.openedAt) rule → rule.level ≤ case.currentEscalationLevel := by
  obtain ⟨all, decides⟩ := decides_due now policy case
  cases last : due now policy case with
  | none =>
    rw [last] at all
    exact iff_of_true rfl all
  | some final =>
    obtain ⟨above, first⟩ := decides final last
    refine iff_of_false (Option.some_ne_none _) fun quiet => ?_
    have has := List.find?_some first
    simp only [Bool.and_eq_true] at has
    exact absurd (quiet final (List.mem_of_find?_eq_some first) has.1) (Nat.not_le.mpr above)

variable (isPolicy : policyOf target case = some policy)

include isPolicy

theorem assess_self : assess target now case case =
    { case with
      priority := (due now policy case).elim case.priority fun rule => some rule.newPriority
      currentEscalationLevel :=
        (due now policy case).elim case.currentEscalationLevel HumanSLAEscalationRule.level
      slaBreached := breaches (now - case.openedAt) policy || case.slaBreached } := by
  rw [assess, isPolicy, Option.elim_some, Function.comp_apply]
  cases due now policy case <;> cases breaches (now - case.openedAt) policy <;> rfl

/-- An evaluation leaves nothing to do for a second one at the same time. -/
theorem assess_assess :
    assess target now (assess target now case case) ∘ assess target now case =
      assess target now case := by
  have left := assess_self now isPolicy
  have opened : (assess target now case case).openedAt = case.openedAt := by rw [left]
  have same : policyOf target (assess target now case case) = some policy := by
    rw [left]
    exact isPolicy
  have quiet : due now policy (assess target now case case) = none := by
    rw [due_eq_none_iff, opened, left]
    exact (decides_due now policy case).1
  funext row
  show (policyOf target (assess target now case case)).elim id _ (assess target now case row) = _
  rw [same, Option.elim_some, opened, quiet, assess, isPolicy]
  cases breached :
    breaches (now - case.openedAt) policy <;> simp [breached, escalate, updateCaseSlaBreached]

end

/-- **An evaluation takes the case to the highest level whose time has passed, with the priority of
the first such rule, and a second one at the same time changes nothing.** -/
theorem evaluate_sla_escalates (target : Target) (now : ℤ) (cases : Cases) (case : SLACase)
    (policy : HumanSLAPolicy) (found : getCase target cases = some case)
    (isPolicy : policyOf target case = some policy) :
    let evaluated := after (evaluateSla target now).run
    let past := policy.escalationRules.filter (triggered (now - case.openedAt))
    ∃ left, getCase target (evaluated cases) = some left ∧
      (case.currentEscalationLevel :: past.map HumanSLAEscalationRule.level).max? =
        some left.currentEscalationLevel ∧
      left.priority =
        (if case.currentEscalationLevel < left.currentEscalationLevel then
          (past.find? fun rule => rule.level = left.currentEscalationLevel).map
            HumanSLAEscalationRule.newPriority
        else case.priority) ∧
      evaluated (evaluated cases) = evaluated cases := by
  intro evaluated past
  have again := getCase_evaluateSla now found
  have decides := decides_due now policy case
  have same : evaluated (evaluated cases) = evaluated cases := by
    show after _ (after _ cases) = after _ cases
    rw [after_evaluateSla now again, after_evaluateSla now found,
      updateCase_updateCase (keepsKeys_assess now), assess_assess now isPolicy]
  rw [assess_self now isPolicy] at again
  refine ⟨_, again, ?_, ?_, same⟩
  · rw [List.max?_eq_some_iff]
    refine ⟨?_, List.forall_mem_cons.mpr ⟨decides.le, List.forall_mem_map.mpr ?_⟩⟩
    · cases last : due now policy case with
      | none => exact List.mem_cons_self
      | some final =>
        have first := (decides.2 final last).2
        have has := List.find?_some first
        simp only [Bool.and_eq_true] at has
        exact List.mem_cons_of_mem _
          (List.mem_map_of_mem (List.mem_filter.mpr ⟨List.mem_of_find?_eq_some first, has.1⟩))
    · simpa [past] using decides.1
  · cases last : due now policy case with
    | none => simp
    | some final =>
      obtain ⟨above, first⟩ := decides.2 final last
      have hit : (past.find? fun rule => rule.level = final.level) = some final := by
        simpa [past, List.find?_filter] using first
      exact ((if_pos above).trans
        (congrArg (Option.map HumanSLAEscalationRule.newPriority) hit)).symm

/-! ## The life of a case -/

inductive Call where
  | assignCase (humanAgentId : String)
  | resolveCase (payload : SLACaseResolve)
  | evaluateSla (now : ℤ)

/-- The moves of the status, and the columns that stay once the case is resolved. -/
@[mk_iff]
structure Lawful (before after : SLACase) : Prop where
  status : after.status = before.status ∨ before.status = .open ∧ after.status = .assigned ∨
    (before.status = .open ∨ before.status = .assigned) ∧ after.status = .resolved
  final : before.status = .resolved →
    after.humanAgentId = before.humanAgentId ∧ after.resolutionStatus = before.resolutionStatus ∧
      after.resolutionSummary = before.resolutionSummary ∧ after.priority = before.priority ∧
      after.currentEscalationLevel = before.currentEscalationLevel ∧
        after.slaBreached = before.slaBreached

section

variable (target : Target)

def perform (cases : Cases) : Call → Cases
  | .assignCase humanAgentId => updateCase target (assignCase humanAgentId) cases
  | .resolveCase payload => updateCase target (resolveCase payload) cases
  | .evaluateSla now => after (evaluateSla target now).run cases

/-- What a call does to the case. -/
def effect (case : SLACase) : Call → SLACase
  | .assignCase humanAgentId => assignCase humanAgentId case
  | .resolveCase payload => resolveCase payload case
  | .evaluateSla now => assess target now case case

/-- No rule of a higher level has been triggered, and no breach is to be marked. -/
def Idle (now : ℤ) (case : SLACase) (policy : HumanSLAPolicy) : Prop :=
  (∀ rule ∈ policy.escalationRules, triggered (now - case.openedAt) rule →
    rule.level ≤ case.currentEscalationLevel) ∧
      (breaches (now - case.openedAt) policy → case.slaBreached)

/-- A call that suits the case: a resolved case is not assigned again, resolved only as it was, and
evaluated only if the evaluation has nothing to do. -/
def Suits (case : SLACase) : Call → Prop
  | .assignCase _ => case.status = .open ∨ case.status = .assigned
  | .resolveCase payload =>
    case.status = .open ∨ case.status = .assigned ∨ case.status = .resolved ∧
      some payload.humanAgentId = case.humanAgentId ∧
      some payload.resolutionStatus = case.resolutionStatus ∧
      some payload.resolutionSummary = case.resolutionSummary
  | .evaluateSla now =>
    case.status = .resolved → ∀ policy ∈ policyOf target case, Idle now case policy

variable {target} {cases : Cases} {case : SLACase}

theorem getCase_perform (call : Call) (found : getCase target cases = some case) :
    getCase target (perform target cases call) = some (effect target case call) := by
  cases call with
  | assignCase agent => exact getCase_of_found (fun _ => ⟨rfl, rfl⟩) found
  | resolveCase payload => exact getCase_of_found (fun _ => ⟨rfl, rfl⟩) found
  | evaluateSla now => exact getCase_evaluateSla now found

theorem lawful_evaluateSla_iff {now : ℤ} {policy : HumanSLAPolicy}
    (isPolicy : policyOf target case = some policy) :
    Lawful case (assess target now case case) ↔
      (case.status = .resolved → Idle now case policy) := by
  have decides := decides_due now policy case
  rw [assess_self now isPolicy, Idle, ← due_eq_none_iff]
  constructor
  · intro lawful resolved
    obtain ⟨-, -, -, -, level, breached⟩ := lawful.final resolved
    constructor
    · cases last : due now policy case with
      | none => rfl
      | some final =>
        rw [last] at level
        exact absurd level (decides.2 final last).1.ne'
    · intro due
      simpa [due] using breached.symm
  · intro suits
    refine ⟨.inl rfl, fun resolved => ?_⟩
    obtain ⟨quiet, breached⟩ := suits resolved
    refine ⟨rfl, rfl, rfl, by simp [quiet], by simp [quiet], ?_⟩
    simpa using breached

theorem lawful_effect_iff (call : Call) : Lawful case (effect target case call) ↔
    Suits target case call := by
  cases call with
  | assignCase agent =>
    rw [effect, Suits, lawful_iff]
    cases status : case.status <;> simp [assignCase]
  | resolveCase payload =>
    rw [effect, Suits, lawful_iff]
    cases status : case.status <;> simp [resolveCase]
  | evaluateSla now =>
    show Lawful case (assess target now case case) ↔ _
    cases isPolicy : policyOf target case with
    | none =>
      rw [assess, isPolicy]
      refine iff_of_true ⟨.inl rfl, fun _ => ⟨rfl, rfl, rfl, rfl, rfl, rfl⟩⟩ fun _ policy has => ?_
      rw [isPolicy] at has
      cases has
    | some policy =>
      rw [lawful_evaluateSla_iff isPolicy, Suits, isPolicy]
      simp

variable (target)

def caseAfter (cases : Cases) (calls : List Call) : Option SLACase :=
  getCase target (calls.foldl (perform target) cases)

/-- Every call on the case obeys the law. -/
def Lifecycle (cases : Cases) (calls : List Call) : Prop :=
  ∀ past call, past ++ [call] <+: calls → ∀ before ∈ caseAfter target cases past,
    ∀ after ∈ caseAfter target cases (past ++ [call]), Lawful before after

/-- **Every call obeys the law exactly if every call suits the case it finds.** -/
theorem sla_case_lifecycle_iff (cases : Cases) (calls : List Call) :
    Lifecycle target cases calls ↔ ∀ past call, past ++ [call] <+: calls →
      ∀ before ∈ caseAfter target cases past, Suits target before call := by
  refine forall₃_congr fun past call _ => forall₂_congr fun before isCase => ?_
  rw [caseAfter, List.foldl_concat, ← lawful_effect_iff call, getCase_perform call isCase]
  simp

end

/-! ## A case and a policy -/

def openCase : SLACase := ⟨1, 7, .open, none, none, none, some "low", some 9, 0, false, 0⟩

def twoLevels : Target := ⟨fun _ => some ⟨none, [⟨1, 1, "medium"⟩, ⟨2, 4, "high"⟩]⟩, 1, 7⟩

/-- After five hours the case is at the second level. -/
theorem two_levels_reached : ∃ left,
    getCase twoLevels (after (evaluateSla twoLevels 18000000000).run [openCase]) = some left ∧
      left.currentEscalationLevel = 2 ∧ left.priority = some "high" := by
  obtain ⟨left, is, level, priority, -⟩ :=
    evaluate_sla_escalates twoLevels 18000000000 [openCase] openCase _ rfl rfl
  have reached : left.currentEscalationLevel = 2 := (Option.some.inj level).symm
  rw [reached] at priority
  exact ⟨left, is, reached, priority⟩

/-- A resolved case can be assigned again. -/
theorem resolved_case_reassigned : ¬ ∀ target cases calls, Lifecycle target cases calls := by
  intro lawful
  have law := lawful twoLevels [openCase] [.resolveCase ⟨.resolved, "done", "first"⟩,
      .assignCase "second"]
    [.resolveCase ⟨.resolved, "done", "first"⟩] _ (List.prefix_refl _) _ rfl _ rfl
  have moved := law.status
  revert moved
  decide

end AgentOrchestration.HumanSla
