import BurnLens.Backend.QuotaAlerts
import BurnLens.Library.Ownership

/-! # Isolation of quota alerts

A key is ranked by all the requests that have its name as their label, of whatever workspace.  The
ranking is that of the workspace's own requests exactly where no request of another workspace has
such a label; then an evaluation knows nothing of other workspaces, and the key that it offers has
the most requests of its own.
-/

namespace BurnLens.Backend

open Library

/-! ## The rows of a workspace -/

def QuotaTables.of (db : QuotaTables) (workspaceId : Str) : QuotaTables where
  rules := db.rules.filter fun rule => rule.workspaceId = workspaceId
  events := db.events.filter fun event => event.workspaceId = workspaceId
  apiKeys := db.apiKeys.filter fun key => key.workspaceId = workspaceId
  cycles := db.cycles.filter fun cycle => cycle.workspaceId = workspaceId
  requests := db.requests.filter fun request => request.workspaceId = workspaceId

/-- The latest cycle of a workspace that has not ended. -/
def QuotaTables.currentCycle (db : QuotaTables) (now : Int) (workspaceId : Str) :
    Option WorkspaceCycle :=
  @List.argmax _ _ Int.instLinearOrder.toPreorder _ (fun cycle : WorkspaceCycle => cycle.cycleStart)
    (db.cycles.filter fun cycle => cycle.workspaceId = workspaceId ∧ now < cycle.cycleEnd)

/-- The requests of a key's own workspace in its current cycle. -/
def QuotaTables.ownRequests (db : QuotaTables) (now : Int) (key : NamedKey) : Nat :=
  match db.currentCycle now key.workspaceId with
  | some cycle => db.requests.countP fun request => request.workspaceId = key.workspaceId ∧
      request.keyLabel = some key.name ∧ cycle.cycleStart ≤ request.ts ∧ request.ts < cycle.cycleEnd
  | none => 0

/-- What an evaluation sees: the ranking, and the recent events of the rules. -/
def QuotaTables.seen (now : Int) (workspaceId : Str) (db : QuotaTables) :
    List RankedKey × List (List QuotaAlertEvent) :=
  (db.rankedKeys now workspaceId,
    (AlertServices.enabledRules workspaceId db).map fun rule => recentEvents now rule db.events)

/-- Every request that counts for a key of the workspace is the workspace's own, and so is every
    recent event of its rules. -/
def QuotaTables.Confined (now : Int) (workspaceId : Str) (db : QuotaTables) : Prop :=
  (∀ key ∈ db.pausableKeys workspaceId, ∀ row ∈ db.joined now key,
      row.2.workspaceId = workspaceId) ∧
    ∀ rule ∈ AlertServices.enabledRules workspaceId db, ∀ event ∈ recentEvents now rule db.events,
      event.workspaceId = workspaceId

/-- Every request of the workspace that counts for a key of it counts in the current cycle, and lies
    in it. -/
def QuotaTables.InCycle (now : Int) (workspaceId : Str) (db : QuotaTables) : Prop :=
  ∀ key ∈ db.pausableKeys workspaceId, ∀ row ∈ db.joined now key, row.2.workspaceId = workspaceId →
    db.currentCycle now workspaceId = some row.1 ∧ row.2.ts < row.1.cycleEnd

/-- The key is one that can be paused, with the most requests of its own; there is none only where
    no key has any. -/
structure OffersTop (services : AlertServices) (quota : WorkspaceQuota) (now : Int)
    (db : QuotaTables) : Prop where
  top : ∀ ranked, services.topKey quota now db = some ranked →
    ranked.key ∈ db.apiKeys ∧ ranked.key.workspaceId = quota.workspaceId ∧
      ranked.key.revoked = false ∧ ranked.key.paused = false ∧ 0 < db.ownRequests now ranked.key ∧
      ∀ other ∈ db.pausableKeys quota.workspaceId,
        db.ownRequests now other ≤ db.ownRequests now ranked.key
  none : services.topKey quota now db = none → ∀ key ∈ db.pausableKeys quota.workspaceId,
    db.ownRequests now key = 0

section

variable {services : AlertServices} {quota : WorkspaceQuota} {now : Int} {workspaceId : Str}
  {db db' : QuotaTables} {key : NamedKey} {rule : AlertRule}

/-! ## What is the workspace's own -/

theorem filter_own {Row : Type} (workspace : Row → Str) (p : Row → Prop) [DecidablePred p]
    (rows : List Row) :
    (rows.filter fun row => workspace row = workspaceId).filter
        (fun row => workspace row = workspaceId ∧ p row) =
      rows.filter fun row => workspace row = workspaceId ∧ p row := by
  rw [List.filter_filter]
  apply List.filter_congr
  intro row _
  by_cases own : workspace row = workspaceId <;> simp [own]

theorem mem_pausableKeys : key ∈ db.pausableKeys workspaceId ↔
    key ∈ db.apiKeys ∧ key.workspaceId = workspaceId ∧ key.enabled = true := by
  simp [QuotaTables.pausableKeys]

theorem pausableKeys_of : (db.of workspaceId).pausableKeys workspaceId =
    db.pausableKeys workspaceId :=
  filter_own (fun key : NamedKey => key.workspaceId) (fun key => key.enabled = true) db.apiKeys

theorem enabledRules_of : AlertServices.enabledRules workspaceId (db.of workspaceId) =
    AlertServices.enabledRules workspaceId db :=
  filter_own AlertRule.workspaceId (fun rule => rule.enabled = true) db.rules

theorem joined_of (its : key.workspaceId = workspaceId) :
    (db.of workspaceId).joined now key =
      (db.joined now key).filter fun row => row.2.workspaceId = workspaceId := by
  have cycles : (db.of workspaceId).cycles.filter (fun cycle =>
      cycle.workspaceId = key.workspaceId ∧ now ≤ cycle.cycleEnd) =
      db.cycles.filter fun cycle => cycle.workspaceId = key.workspaceId ∧ now ≤ cycle.cycleEnd := by
    rw [its]
    exact filter_own WorkspaceCycle.workspaceId (fun cycle => now ≤ cycle.cycleEnd) db.cycles
  rw [QuotaTables.joined, QuotaTables.joined, cycles, List.filter_flatMap]
  apply List.flatMap_congr
  intro cycle _
  rw [List.filter_map, QuotaTables.of, List.filter_filter, List.filter_filter]
  congr 1
  apply List.filter_congr
  intro request _
  simp [Bool.and_comm]

theorem currentCycle_of :
    (db.of workspaceId).currentCycle now workspaceId = db.currentCycle now workspaceId :=
  congrArg (List.argmax _)
    (filter_own WorkspaceCycle.workspaceId (fun cycle => now < cycle.cycleEnd) db.cycles)

/-- What the own requests do depends on the rows of the workspace only. -/
theorem inCycle_of : (db.of workspaceId).InCycle now workspaceId ↔ db.InCycle now workspaceId := by
  simp only [QuotaTables.InCycle, pausableKeys_of, currentCycle_of]
  refine forall₂_congr fun key member => ?_
  rw [joined_of (mem_pausableKeys.mp member).2.1]
  simp only [List.mem_filter, decide_eq_true_eq, and_imp]
  exact forall₂_congr fun row _ => ⟨fun kept own => kept own own, fun kept own _ => kept own⟩

theorem recentEvents_of : recentEvents now rule (db.of workspaceId).events =
    (recentEvents now rule db.events).filter fun event => event.workspaceId = workspaceId := by
  simp only [recentEvents, QuotaTables.of, List.filter_filter]
  apply List.filter_congr
  intro event _
  exact Bool.and_comm ..

/-! ## The ranking -/

theorem mem_rankedKeys {ranked : RankedKey} : ranked ∈ db.rankedKeys now workspaceId ↔
    ranked.key ∈ db.pausableKeys workspaceId ∧ ranked.reqCount = (db.joined now ranked.key).length ∧
      0 < ranked.reqCount := by
  simp only [QuotaTables.rankedKeys, List.mem_filterMap]
  constructor
  · rintro ⟨key, member, kept⟩
    split at kept
    · cases kept
    · next some =>
      cases kept
      exact ⟨member, rfl, List.length_pos_iff.mpr (by simpa using some)⟩
  · rintro ⟨member, count, positive⟩
    refine ⟨ranked.key, member, ?_⟩
    rw [count] at positive
    rw [if_neg (by simpa using List.length_pos_iff.mp positive), ← count]

/-- Two rankings of the same keys are the same exactly where the counts are. -/
theorem rankedKeys_eq_iff (keys : db.pausableKeys workspaceId = db'.pausableKeys workspaceId) :
    db.rankedKeys now workspaceId = db'.rankedKeys now workspaceId ↔
      ∀ key ∈ db.pausableKeys workspaceId,
        (db.joined now key).length = (db'.joined now key).length := by
  constructor
  · intro same key member
    have rank : ∀ count, 0 < count → ((db.joined now key).length = count ↔
        (db'.joined now key).length = count) := by
      intro count positive
      have both : (⟨key, count⟩ : RankedKey) ∈ db.rankedKeys now workspaceId ↔
          (⟨key, count⟩ : RankedKey) ∈ db'.rankedKeys now workspaceId := by rw [same]
      rw [mem_rankedKeys, mem_rankedKeys, ← keys] at both
      simp only [member, positive, and_true, true_and] at both
      exact ⟨fun its => (both.mp its.symm).symm, fun its => (both.mpr its.symm).symm⟩
    by_cases zero : (db.joined now key).length = 0
    · by_contra other
      have positive : 0 < (db'.joined now key).length := by omega
      have := (rank _ positive).mpr rfl
      omega
    · exact ((rank _ (Nat.pos_of_ne_zero zero)).mp rfl).symm
  · intro counts
    rw [QuotaTables.rankedKeys, QuotaTables.rankedKeys, ← keys]
    apply List.filterMap_congr
    intro key member
    have same := counts key member
    simp only [← List.length_eq_zero_iff, List.isEmpty_iff, same]

theorem confined_seen : ConfinedUnder (fun db => db.of workspaceId)
    (QuotaTables.seen now workspaceId) (QuotaTables.Confined now workspaceId) := by
  intro db
  have own : ∀ key ∈ db.pausableKeys workspaceId,
      (db.joined now key).length = ((db.of workspaceId).joined now key).length ↔
        ∀ row ∈ db.joined now key, row.2.workspaceId = workspaceId := by
    intro key member
    rw [joined_of (mem_pausableKeys.mp member).2.1, length_filter_eq_iff]
    simp only [decide_eq_true_eq]
  rw [QuotaTables.seen, QuotaTables.seen, Prod.mk.injEq,
    rankedKeys_eq_iff pausableKeys_of.symm, enabledRules_of, QuotaTables.Confined]
  apply and_congr
  · exact forall₂_congr own
  · rw [List.map_inj_left]
    apply forall₂_congr
    intro rule _
    rw [recentEvents_of, eq_comm, List.filter_eq_self]
    simp only [decide_eq_true_eq]

/-! ## Evaluations -/

theorem evaluateRule_seen {e : Evaluation}
    (ranking : db.rankedKeys now quota.workspaceId = db'.rankedKeys now quota.workspaceId)
    (recent : recentEvents now rule db.events = recentEvents now rule db'.events) :
    services.evaluateRule quota now db e rule = services.evaluateRule quota now db' e rule := by
  have top : services.topKey quota now db = services.topKey quota now db' := by
    rw [AlertServices.topKey, ranking, AlertServices.topKey]
  have events : recentEvents now rule (db.events ++ e.recorded) =
      recentEvents now rule (db'.events ++ e.recorded) := by
    rw [recentEvents, List.filter_append, recentEvents, List.filter_append]
    exact congrArg (· ++ _) recent
  rw [AlertServices.evaluateRule, top, events, AlertServices.evaluateRule]

theorem evaluateWorkspace_seen
    (rules : AlertServices.enabledRules quota.workspaceId db =
      AlertServices.enabledRules quota.workspaceId db')
    (seen : db.seen now quota.workspaceId = db'.seen now quota.workspaceId) :
    services.evaluateWorkspace quota now db = services.evaluateWorkspace quota now db' := by
  obtain ⟨ranking, recent⟩ := Prod.mk.inj seen
  rw [rules, List.map_inj_left] at recent
  rw [AlertServices.evaluateWorkspace, AlertServices.evaluateWorkspace, rules]
  apply List.foldl_ext
  intro e rule member
  exact evaluateRule_seen ranking (recent rule (((services.byThreshold.perm _).mem_iff).mp member))

theorem sum_map_ite_eq {α : Type} [DecidableEq α] (items : List α) (item : α) (n : Nat) :
    (items.map fun other => if other = item then n else 0).sum = items.count item * n := by
  induction items with
  | nil => simp
  | cons head items inductionHypothesis =>
    rw [List.map_cons, List.sum_cons, inductionHypothesis, List.count_cons]
    by_cases same : head = item
    · simp [same, Nat.add_mul, Nat.add_comm]
    · simp [same]

/-- The cycles that are joined to the keys of a workspace. -/
def QuotaTables.joinedCycles (db : QuotaTables) (now : Int) (workspaceId : Str) :
    List WorkspaceCycle :=
  db.cycles.filter fun cycle => cycle.workspaceId = workspaceId ∧ now ≤ cycle.cycleEnd

theorem currentCycle_joined {cycle : WorkspaceCycle}
    (current : db.currentCycle now workspaceId = some cycle) :
    cycle ∈ db.joinedCycles now workspaceId := by
  have member := List.argmax_mem current
  rw [List.mem_filter, decide_eq_true_eq] at member
  rw [QuotaTables.joinedCycles, List.mem_filter, decide_eq_true_eq]
  exact ⟨member.1, member.2.1, member.2.2.le⟩

/-- Where everything that counts is the workspace's own and in its current cycle, a key counts its
    own requests, as often as the cycle is there. -/
theorem length_joined {cycle : WorkspaceCycle} (confined : db.Confined now workspaceId)
    (inCycle : db.InCycle now workspaceId) (current : db.currentCycle now workspaceId = some cycle)
    (member : key ∈ db.pausableKeys workspaceId) : (db.joined now key).length =
      (db.joinedCycles now workspaceId).count cycle * db.ownRequests now key := by
  have its := (mem_pausableKeys.mp member).2.1
  rw [← sum_map_ite_eq, QuotaTables.joined, its, List.length_flatMap, QuotaTables.joinedCycles]
  refine congrArg List.sum (List.map_congr_left fun other there => ?_)
  have each : ∀ request ∈ db.requests, request.keyLabel = some key.name → other.cycleStart ≤ request.ts →
      request.workspaceId = workspaceId ∧ other = cycle ∧ request.ts < other.cycleEnd := by
    intro request stored label since
    have row : (other, request) ∈ db.joined now key := by
      rw [QuotaTables.joined, its]
      refine List.mem_flatMap.mpr ⟨other, there, List.mem_map.mpr ⟨request, ?_, rfl⟩⟩
      exact List.mem_filter.mpr ⟨stored, by simp [label, since]⟩
    have own := confined.1 key member _ row
    obtain ⟨same, before⟩ := inCycle key member _ row own
    rw [current] at same
    exact ⟨own, (Option.some.inj same).symm, before⟩
  rw [List.length_map, ← List.countP_eq_length_filter]
  split
  · next same =>
    subst same
    rw [QuotaTables.ownRequests, its, current]
    refine List.countP_congr fun request stored => ?_
    simp only [decide_eq_true_eq]
    refine ⟨fun ⟨label, since⟩ => ?_, fun ⟨_, label, since, _⟩ => ⟨label, since⟩⟩
    obtain ⟨own, -, before⟩ := each request stored label since
    exact ⟨own, label, since, before⟩
  · next apart =>
    rw [List.countP_eq_zero]
    intro request stored joined
    rw [decide_eq_true_eq] at joined
    exact apart (each request stored joined.1 joined.2).2.1

theorem joined_nil (confined : db.Confined now workspaceId) (inCycle : db.InCycle now workspaceId)
    (none : db.currentCycle now workspaceId = none) (member : key ∈ db.pausableKeys workspaceId) :
    db.joined now key = [] ∧ db.ownRequests now key = 0 := by
  constructor
  · refine List.eq_nil_iff_forall_not_mem.mpr fun row joined => ?_
    have current := (inCycle key member row joined (confined.1 key member row joined)).1
    rw [none] at current
    cases current
  · rw [QuotaTables.ownRequests, (mem_pausableKeys.mp member).2.1, none]

theorem exists_scale (confined : db.Confined now workspaceId) (inCycle : db.InCycle now workspaceId) :
    ∃ scale, 0 < scale ∧ ∀ key ∈ db.pausableKeys workspaceId,
      (db.joined now key).length = scale * db.ownRequests now key := by
  cases current : db.currentCycle now workspaceId with
  | some cycle =>
    exact ⟨_, List.count_pos_iff.mpr (currentCycle_joined current), fun key member =>
      length_joined confined inCycle current member⟩
  | none =>
    refine ⟨1, Nat.one_pos, fun key member => ?_⟩
    obtain ⟨joined, own⟩ := joined_nil confined inCycle current member
    simp [joined, own]

theorem QuotaTables.Confined.offersTop (confined : db.Confined now quota.workspaceId)
    (inCycle : db.InCycle now quota.workspaceId) : OffersTop services quota now db := by
  obtain ⟨scale, more, own⟩ := exists_scale confined inCycle
  have perm := services.byRequests.perm (db.rankedKeys now quota.workspaceId)
  have sorted := services.byRequests.sorted (db.rankedKeys now quota.workspaceId)
  constructor
  · intro ranked top
    obtain ⟨rest, order⟩ := List.head?_eq_some_iff.mp top
    have member : ranked ∈ db.rankedKeys now quota.workspaceId :=
      perm.mem_iff.mp (order ▸ List.mem_cons_self)
    obtain ⟨pausable, count, positive⟩ := mem_rankedKeys.mp member
    obtain ⟨there, workspace, enabled⟩ := mem_pausableKeys.mp pausable
    simp only [ApiKeyRow.enabled, Bool.and_eq_true, Bool.not_eq_true'] at enabled
    rw [own _ pausable] at count
    refine ⟨there, workspace, enabled.1, enabled.2, ?_, fun other member' => ?_⟩
    · rw [count] at positive
      exact Nat.pos_of_mul_pos_left positive
    · by_cases zero : db.ownRequests now other = 0
      · omega
      · have counted : 0 < (db.joined now other).length := by
          rw [own _ member']
          exact Nat.mul_pos more (Nat.pos_of_ne_zero zero)
        have inRanking : (⟨other, (db.joined now other).length⟩ : RankedKey) ∈ ranked :: rest := by
          rw [← order, perm.mem_iff]
          exact mem_rankedKeys.mpr ⟨member', rfl, counted⟩
        have most : (db.joined now other).length ≤ ranked.reqCount := by
          rw [order] at sorted
          obtain same | later := List.mem_cons.mp inRanking
          · rw [← same]
          · exact List.rel_of_pairwise_cons sorted later
        rw [own _ member', count] at most
        exact Nat.le_of_mul_le_mul_left most more
  · intro none key member
    have empty : db.rankedKeys now quota.workspaceId = [] := by
      have unordered := List.head?_eq_none_iff.mp none
      rw [unordered] at perm
      exact perm.symm.eq_nil
    by_contra some
    have counted : 0 < (db.joined now key).length := by
      rw [own _ member]
      exact Nat.mul_pos more (Nat.pos_of_ne_zero some)
    have inRanking : (⟨key, (db.joined now key).length⟩ : RankedKey) ∈
        db.rankedKeys now quota.workspaceId := mem_rankedKeys.mpr ⟨member, rfl, counted⟩
    rw [empty] at inRanking
    cases inRanking

/-- Of two databases with the same rows of a workspace, where one is confined to them, an
    evaluation sees the same in both exactly where the other is so too; then it fires the same
    alerts with the same content.  Where what counts of the workspace's own requests is in its
    current cycle as well, it offers a key with the most requests of its own in that cycle. -/
theorem alerts_isolated (agree : db.of quota.workspaceId = db'.of quota.workspaceId)
    (confined' : db'.Confined now quota.workspaceId) :
    (db.seen now quota.workspaceId = db'.seen now quota.workspaceId ↔
      db.Confined now quota.workspaceId) ∧
    (db.Confined now quota.workspaceId →
      services.evaluateWorkspace quota now db = services.evaluateWorkspace quota now db' ∧
        (db.InCycle now quota.workspaceId →
          OffersTop services quota now db ∧ OffersTop services quota now db')) := by
  have same := confined_seen.same_iff agree confined'
  refine ⟨same, fun confined => ⟨?_, fun inCycle => ⟨confined.offersTop inCycle, ?_⟩⟩⟩
  · apply evaluateWorkspace_seen _ (same.mpr confined)
    rw [← enabledRules_of, agree, enabledRules_of]
  · apply confined'.offersTop
    rw [← inCycle_of, ← agree, inCycle_of]
    exact inCycle

end

/-! ## A label of another workspace -/

def slackServices : AlertServices where
  byThreshold := OrderBy.stable _
  byRequests := OrderBy.stable _
  urlparse _ := some ("https", some ("hooks.slack.com" : Str))
  delivers _ := true

def acmeQuota : WorkspaceQuota where
  workspaceId := "acme"
  planLabel := "Cloud"
  currentCount := 90
  monthlyCap := 100
  cycleEndDate := []

def acmeKey (name : Str) : NamedKey where
  id := name
  workspaceId := "acme"
  keyHash := name
  name := name

/-- The workspace has two requests of one key and one of another; a second workspace has three
    with this label. -/
def labelledBy (label : Str) : QuotaTables where
  rules := [{
    id := "rule", workspaceId := "acme", thresholdPct := 80, channel := .slack
    slackWebhookUrl := some ("hook" : Str) }]
  apiKeys := [acmeKey "busy", acmeKey "idle"]
  cycles := [{ cycleStart := 0, cycleEnd := 9, workspaceId := "acme" }]
  requests := [⟨"acme", 1, some ("busy" : Str)⟩, ⟨"acme", 2, some ("busy" : Str)⟩,
    ⟨"acme", 3, some ("idle" : Str)⟩, ⟨"globex", 4, some label⟩, ⟨"globex", 5, some label⟩,
    ⟨"globex", 6, some label⟩]

/-- The keys that the messages offer to pause. -/
def Evaluation.offered (e : Evaluation) : List Str :=
  e.posted.flatMap fun
    | .slack alert | .teams alert => alert.links.filterMap ActionLink.targetId
    | .email _ => []

/-- Another workspace's requests choose the key: of two databases with the same rows of the
    workspace, one offers its key with fewer requests. -/
theorem idle_key_offered :
    (labelledBy "idle").of "acme" = (labelledBy "other").of "acme" ∧
      (slackServices.evaluateWorkspace acmeQuota 7 (labelledBy "other")).offered = [("busy" : Str)] ∧
      (slackServices.evaluateWorkspace acmeQuota 7 (labelledBy "idle")).offered = [("idle" : Str)] ∧
      (labelledBy "idle").ownRequests 7 (acmeKey "idle") = 1 ∧
      (labelledBy "idle").ownRequests 7 (acmeKey "busy") = 2 := by
  refine ⟨rfl, ?_, ?_, ?_, ?_⟩ <;> decide +kernel

theorem busy_key_offered :
    slackServices.evaluateWorkspace acmeQuota 7 (labelledBy "other") =
        slackServices.evaluateWorkspace acmeQuota 7 ((labelledBy "other").of "acme") ∧
      OffersTop slackServices acmeQuota 7 (labelledBy "other") := by
  have confined : (labelledBy "other").Confined 7 "acme" := by
    unfold QuotaTables.Confined
    decide +kernel
  have alone : ((labelledBy "other").of "acme").Confined 7 "acme" := by
    unfold QuotaTables.Confined
    decide +kernel
  have inCycle : (labelledBy "other").InCycle 7 "acme" := by
    unfold QuotaTables.InCycle
    decide +kernel
  obtain ⟨same, offers⟩ := (@alerts_isolated slackServices acmeQuota 7 (labelledBy "other")
    ((labelledBy "other").of "acme") rfl alone).2 confined
  exact ⟨same, (offers inCycle).1⟩

end BurnLens.Backend
