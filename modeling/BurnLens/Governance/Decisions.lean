import BurnLens.Governance.Engine

/-! # The most restrictive rule

A decision is the meet of what the applicable rules decide, with the decisions ordered by their
restrictiveness.  So neither order nor versions of the rules matter, and a rule more restricts no
less.
-/

namespace BurnLens.Governance

open Library hiding lower

theorem sortPriority_injective : Function.Injective sortPriority := by
  intro d d' same
  cases d <;> cases d' <;> first | rfl | cases same

/-- The more restrictive decision is below. -/
instance : LinearOrder PolicyDecision := LinearOrder.lift' sortPriority sortPriority_injective

theorem le_iff_sortPriority {d d' : PolicyDecision} : d ≤ d' ↔ sortPriority d ≤ sortPriority d' :=
  Iff.rfl

instance : OrderTop PolicyDecision where
  top := .allow
  le_top d := by cases d <;> simp [le_iff_sortPriority, sortPriority]

/-- An action that goes ahead, one that waits, and one that does not happen. -/
def EffectiveAction.restriction : EffectiveAction → Nat
  | .allowedByShadowMode | .proceed | .autonomousExecute => 0
  | .blockedPendingApproval => 1
  | .denied => 2

/-- A more restrictive decision has no less restrictive an effect, whatever the mode. -/
theorem effectiveAction_antitone (mode : EnforcementMode) :
    Antitone fun d => (effectiveAction mode d).restriction := by
  intro d d' below
  rw [le_iff_sortPriority] at below
  cases mode with
  | approvalRequired =>
    have blocked : ∀ d, (effectiveAction .approvalRequired d).restriction =
        if sortPriority d ≤ 1 then 1 else 0 := by
      intro d
      cases d <;> rfl
    simp only [blocked]
    split <;> split <;> omega
  | enforced =>
    have denied : ∀ d, (effectiveAction .enforced d).restriction =
        if sortPriority d ≤ 0 then 2 else 0 := by
      intro d
      cases d <;> rfl
    simp only [denied]
    split <;> split <;> omega
  | _ => simp [effectiveAction]

/-! ## What a rule decides -/

/-- The rule's action type, target pattern and cost limit hold for the action. -/
structure Applies (lower : Str → Str) (action : Action) (rule : PolicyRule) : Prop where
  actionType : rule.actionType = "*" ∨ lower rule.actionType = lower action.actionType
  target : rule.targetPattern = "*" ∨ fnmatch action.target rule.targetPattern = true
  cost : ∀ maxCostUsd, rule.maxCostUsd = some maxCostUsd →
    exceeds action.costUsd maxCostUsd = true

/-- A cost limit asks for approval; any other rule has its own decision. -/
def PolicyRule.decides (rule : PolicyRule) : PolicyDecision :=
  if rule.maxCostUsd.isSome then .requireApproval else rule.decisionIfMatched

section

variable {lower : Str → Str} {action : Action}

theorem candidate_of_applies (metadata : Fields) {rule : PolicyRule}
    (applies : Applies lower action rule) :
    (candidate lower metadata action rule).map (·.decision) = some rule.decides := by
  have type : ¬ (rule.actionType ≠ "*".toList ∧ lower rule.actionType ≠ lower action.actionType) := by
    intro differ
    exact applies.actionType.elim differ.1 differ.2
  have target : ¬ (rule.targetPattern ≠ "*".toList ∧
      (!fnmatch action.target rule.targetPattern) = true) := by
    intro differ
    cases applies.target with
    | inl any => exact differ.1 any
    | inr fits => simp [fits] at differ
  rw [candidate, if_neg type, if_neg target, PolicyRule.decides]
  cases limit : rule.maxCostUsd with
  | some maxCostUsd => simp [applies.cost maxCostUsd limit]
  | none =>
    simp only
    split
    · rfl
    · split <;> rfl

theorem candidate_of_not_applies (metadata : Fields) {rule : PolicyRule}
    (fails : ¬ Applies lower action rule) : candidate lower metadata action rule = none := by
  rw [candidate]
  split
  · rfl
  · next type =>
    split
    · rfl
    · next target =>
      cases limit : rule.maxCostUsd with
      | some maxCostUsd =>
        refine if_neg fun exceeded => fails ⟨by grind, by grind, ?_⟩
        intro limit' same
        cases limit.symm.trans same
        exact exceeded
      | none =>
        refine absurd ⟨by grind, by grind, ?_⟩ fails
        intro limit' same
        cases limit.symm.trans same

/-- What the rules of a workspace decide of an action whose type, pattern and limit hold. -/
def verdicts (lower : Str → Str) (policyRules : List PolicyRule) (action : Action) :
    Set PolicyDecision :=
  {d | ∃ rule ∈ policyRules, rule.selected action.workspaceId = true ∧
    Applies lower action rule ∧ rule.decides = d}

/-- The same of the rules whose condition, as `holds` reads it, holds as well. -/
def conditionedVerdicts (lower : Str → Str) (holds : Str → Action → Prop)
    (policyRules : List PolicyRule) (action : Action) : Set PolicyDecision :=
  {d | ∃ rule ∈ policyRules, rule.selected action.workspaceId = true ∧
    Applies lower action rule ∧ holds rule.conditionExpression action ∧ rule.decides = d}

/-- The condition of every rule holds whose type, pattern and limit do. -/
def ConditionsHold (lower : Str → Str) (holds : Str → Action → Prop)
    (policyRules : List PolicyRule) (action : Action) : Prop :=
  ∀ rule ∈ policyRules, rule.selected action.workspaceId = true → Applies lower action rule →
    holds rule.conditionExpression action

/-- The decisions of the candidates for the rules of a workspace. -/
def decisions (lower : Str → Str) (policyRules : List PolicyRule) (action : Action) :
    Multiset PolicyDecision :=
  ((policyRules.filter (·.selected action.workspaceId)).filterMap fun rule =>
    (candidate lower (action.contextMetadata.getD []) action rule).map (·.decision) :
      List PolicyDecision)

theorem mem_decisions {policyRules : List PolicyRule} {d : PolicyDecision} :
    d ∈ decisions lower policyRules action ↔ d ∈ verdicts lower policyRules action := by
  simp only [decisions, Multiset.mem_coe, List.mem_filterMap, List.mem_filter, verdicts,
    Set.mem_ofPred_eq]
  constructor
  · intro ⟨rule, ⟨member, selected⟩, its⟩
    by_cases applies : Applies lower action rule
    · rw [candidate_of_applies _ applies] at its
      exact ⟨rule, member, selected, applies, Option.some.inj its⟩
    · rw [candidate_of_not_applies _ applies] at its
      cases its
  · intro ⟨rule, member, selected, applies, its⟩
    exact ⟨rule, ⟨member, selected⟩, its ▸ candidate_of_applies _ applies⟩

end

/-! ## The decision -/

section

variable {lower : Str → Str} {action : Action} {policyRules policyRules' rules rules' : List PolicyRule}

theorem decision_eq_inf (mode : EnforcementMode)
    (active : ActiveRules policyRules action.workspaceId rules) (evalId : Str) (now : Time) :
    (evaluation lower mode rules action evalId now).decision =
      (decisions lower policyRules action).inf := by
  have agree : ∀ a b : Candidate, sortPriority a.decision ≤ sortPriority b.decision →
      a.decision ≤ b.decision := fun _ _ => le_iff_sortPriority.mpr
  refine (first_sorted_eq_inf agree _).trans ?_
  rw [List.map_filterMap, Multiset.coe_eq_coe.mpr (active.selected.filterMap _)]
  rfl

/-- The decision is the meet of what the applicable rules decide. -/
theorem decision_isGLB (lower : Str → Str) (mode : EnforcementMode)
    (active : ActiveRules policyRules action.workspaceId rules) (evalId : Str) (now : Time) :
    IsGLB (verdicts lower policyRules action)
      (evaluation lower mode rules action evalId now).decision := by
  rw [decision_eq_inf mode active]
  constructor
  · intro d member
    exact Multiset.inf_le (mem_decisions.mpr member)
  · intro d below
    exact Multiset.le_inf.mpr fun d' member => below (mem_decisions.mp member)

theorem decision_mem (mode : EnforcementMode)
    (active : ActiveRules policyRules action.workspaceId rules) (evalId : Str) (now : Time)
    (some : (verdicts lower policyRules action).Nonempty) :
    (evaluation lower mode rules action evalId now).decision ∈
      verdicts lower policyRules action := by
  rw [decision_eq_inf mode active]
  cases inf_mem_or_empty (decisions lower policyRules action) with
  | inl member => exact mem_decisions.mp member
  | inr empty =>
    obtain ⟨d, member⟩ := some
    rw [← mem_decisions, empty] at member
    exact absurd member (Multiset.notMem_zero d)

theorem conditionedVerdicts_subset {holds : Str → Action → Prop} :
    conditionedVerdicts lower holds policyRules action ⊆ verdicts lower policyRules action := by
  rintro d ⟨rule, member, selected, applies, -, its⟩
  exact ⟨rule, member, selected, applies, its⟩

theorem conditionedVerdicts_eq {holds : Str → Action → Prop}
    (conditions : ConditionsHold lower holds policyRules action) :
    conditionedVerdicts lower holds policyRules action = verdicts lower policyRules action := by
  refine conditionedVerdicts_subset.antisymm ?_
  rintro d ⟨rule, member, selected, applies, its⟩
  exact ⟨rule, member, selected, applies, conditions rule member selected applies, its⟩

def PolicyRule.unversioned (rule : PolicyRule) : PolicyRule := { rule with version := 1 }

theorem verdicts_unversioned : verdicts lower (policyRules.map (·.unversioned)) action =
    verdicts lower policyRules action := by
  have same : ∀ rule : PolicyRule, Applies lower action rule.unversioned ↔ Applies lower action rule :=
    fun rule => ⟨fun h => ⟨h.actionType, h.target, h.cost⟩, fun h => ⟨h.actionType, h.target, h.cost⟩⟩
  ext d
  simp only [verdicts, List.mem_map, Set.mem_ofPred_eq, exists_exists_and_eq_and, same]
  rfl

theorem verdicts_perm (permuted : policyRules.Perm policyRules') :
    verdicts lower policyRules action = verdicts lower policyRules' action := by
  simp only [verdicts, permuted.mem_iff]

theorem verdicts_save {rule : PolicyRule} (new : rule.policyId ∉ policyRules.map (·.policyId)) :
    verdicts lower policyRules action ⊆ verdicts lower (savePolicyRule policyRules rule) action := by
  intro d member
  obtain ⟨old, present, its⟩ := member
  have same : rule.asStored.policyId = rule.policyId := by
    rw [PolicyRule.asStored]
    split <;> rfl
  rw [savePolicyRule, upsert, same, if_neg new]
  exact ⟨old, List.mem_append_left _ present, its⟩

/-- Governance applies the most restrictive rule, whatever a condition expression may mean: a rule
whose type, pattern, limit and condition hold is never outranked by a laxer one, and where all the
conditions hold the decision is that of such a rule.  A cost limit asks for approval. -/
theorem decision_most_restrictive (holds : Str → Action → Prop) (mode : EnforcementMode)
    {record : PolicyEvaluationRecord} {log log' : List PolicyEvaluationRecord} {evalId : Str} {now : Time}
    (active : ActiveRules policyRules action.workspaceId rules)
    (answered : evaluateAction lower mode rules action evalId now log = .ok (record, log')) :
    ((∀ d ∈ conditionedVerdicts lower holds policyRules action, record.decision ≤ d) ∧
      (ConditionsHold lower holds policyRules action →
        ((conditionedVerdicts lower holds policyRules action).Nonempty →
          record.decision ∈ conditionedVerdicts lower holds policyRules action) ∧
        (conditionedVerdicts lower holds policyRules action = ∅ → record.decision = .allow))) ∧
    -- neither the order nor the versions of the rules matter
    (∀ policyRules' rules' record' log'',
      (policyRules.map (·.unversioned)).Perm (policyRules'.map (·.unversioned)) →
      ActiveRules policyRules' action.workspaceId rules' →
      evaluateAction lower mode rules' action evalId now log = .ok (record', log'') →
      record'.decision = record.decision ∧
        record'.effectiveActionTaken = record.effectiveActionTaken) ∧
    -- one rule more
    (∀ rule rules' record' log'', rule.policyId ∉ policyRules.map (·.policyId) →
      ActiveRules (savePolicyRule policyRules rule) action.workspaceId rules' →
      evaluateAction lower mode rules' action evalId now log = .ok (record', log'') →
      record.effectiveActionTaken.restriction ≤ record'.effectiveActionTaken.restriction) ∧
    (mode = .enforced → record.decision = .deny → record.effectiveActionTaken = .denied) := by
  obtain rfl := evaluateAction_ok answered
  have meet := decision_isGLB lower mode active evalId now
  refine ⟨⟨fun d member => meet.1 (conditionedVerdicts_subset member), ?_⟩, ?_, ?_, ?_⟩
  · intro conditions
    rw [conditionedVerdicts_eq conditions]
    refine ⟨decision_mem mode active evalId now, fun empty => ?_⟩
    rw [empty] at meet
    exact meet.unique isGLB_empty
  · intro policyRules' rules' record' log'' permuted active' answered'
    obtain rfl := evaluateAction_ok answered'
    have meet' := decision_isGLB lower mode active' evalId now
    have same : verdicts lower policyRules' action = verdicts lower policyRules action := by
      rw [← verdicts_unversioned, ← verdicts_perm permuted, verdicts_unversioned]
    rw [same] at meet'
    have decision := meet'.unique meet
    exact ⟨decision, congrArg (effectiveAction mode) decision⟩
  · intro rule rules' record' log'' new active' answered'
    obtain rfl := evaluateAction_ok answered'
    have meet' := decision_isGLB lower mode active' evalId now
    exact effectiveAction_antitone mode (meet.mono meet' (verdicts_save new))
  · intro enforced deny
    show effectiveAction mode (evaluation lower mode rules action evalId now).decision = .denied
    rw [enforced] at deny ⊢
    rw [deny]
    rfl

end

def denyDeploys : PolicyRule where
  policyId := "deny-deploys"
  name := "Deny Deploys"
  actionType := "deploy"
  decisionIfMatched := .deny
  createdAt := 0
  updatedAt := 0

def allowAll : PolicyRule where
  policyId := "allow-all"
  name := "Allow All"
  decisionIfMatched := .allow
  version := 2
  createdAt := 0
  updatedAt := 0

def deploy : Action where
  workspaceId := "default"
  agentId := "agent"
  actionType := "deploy"

/-- A newer rule that allows everything does not outrank one that denies. -/
theorem denied_despite_newer_rule : ∃ record log,
    evaluateAction id .enforced [allowAll, denyDeploys] deploy "eval" 0 [] = .ok (record, log) ∧
      record.effectiveActionTaken = .denied := by
  have active : ActiveRules [denyDeploys, allowAll] deploy.workspaceId [allowAll, denyDeploys] := by
    have both : [denyDeploys, allowAll].filter (·.selected deploy.workspaceId) =
        [denyDeploys, allowAll] := rfl
    have newer : denyDeploys.version ≤ allowAll.version := by decide +kernel
    exact ⟨both ▸ .swap _ _ _, List.pairwise_pair.mpr newer⟩
  have applies : Applies id deploy denyDeploys := ⟨.inr rfl, .inl rfl, fun _ limit => nomatch limit⟩
  have member : PolicyDecision.deny ∈ conditionedVerdicts id (fun condition _ => condition = "true")
      [denyDeploys, allowAll] deploy :=
    ⟨denyDeploys, List.mem_cons_self, by decide +kernel, applies, rfl, rfl⟩
  obtain ⟨⟨record, log⟩, answered⟩ : ∃ answer, evaluateAction id .enforced [allowAll, denyDeploys]
      deploy "eval" 0 [] = .ok answer :=
    evaluateAction_answers.mpr ⟨fun nan => Flt.noConfusion nan, List.not_mem_nil⟩
  obtain ⟨⟨least, -⟩, -, -, denied⟩ :=
    decision_most_restrictive (fun condition _ => condition = "true") .enforced active answered
  exact ⟨record, log, answered, denied rfl (le_antisymm (least _ member) (Nat.zero_le _))⟩

def denyCostly : PolicyRule where
  policyId := "deny-costly"
  name := "Deny Costly Actions"
  decisionIfMatched := .deny
  maxCostUsd := some (.fin 10)
  createdAt := 0
  updatedAt := 0

/-- The only rule of the workspace holds for an action, its condition included, and says DENY.  The
decision is REQUIRE_APPROVAL, and the action proceeds in ENFORCED mode.  An action whose cost is NaN
is not decided. -/
theorem denied_cost_proceeds :
    let action : Action := { deploy with costUsd := .fin 11 }
    (∃ record log, evaluateAction id .enforced [denyCostly] action "eval" 0 [] = .ok (record, log) ∧
      ActiveRules [denyCostly] action.workspaceId [denyCostly] ∧ Applies id action denyCostly ∧
      denyCostly.conditionExpression = "true" ∧ denyCostly.decisionIfMatched = .deny ∧
      record.decision = .requireApproval ∧ record.effectiveActionTaken = .proceed) ∧
    ¬ ∃ answer, evaluateAction id .enforced [denyCostly] { deploy with costUsd := .nan } "eval" 0 [] =
      .ok answer := by
  have exceeded : exceeds (.fin 11) (.fin 10) = true := by decide +kernel
  constructor
  · refine ⟨_, _, rfl, ⟨.refl _, by simp⟩, ⟨.inl rfl, .inl rfl, ?_⟩, rfl, rfl, by decide +kernel,
      by decide +kernel⟩
    intro limit same
    cases same
    exact exceeded
  · rw [evaluateAction_answers]
    exact fun answered => answered.1 rfl

end BurnLens.Governance
