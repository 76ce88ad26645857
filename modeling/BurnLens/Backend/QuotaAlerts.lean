import BurnLens.Backend.ApiKeys
import BurnLens.Backend.Usage
import BurnLens.Library.Paging

/-! # Quota alerts

`evaluate_workspace` over the tables of all workspaces: the rules that are crossed and have not
fired for a day, with the key that is offered for pausing.  An evaluation takes no time.
-/

namespace BurnLens.Backend

open Library

/-! ## Tables -/

inductive AlertChannel where
  | email
  | slack
  | teams
  | both
deriving DecidableEq

/-- A row of `alert_rules`. -/
structure AlertRule where
  id : Str
  workspaceId : Str
  thresholdPct : Int
  channel : AlertChannel := .email
  enabled : Bool := true
  slackWebhookUrl : Option Str := none
  teamsWebhookUrl : Option Str := none
deriving DecidableEq

/-- A row of `alert_events`. -/
structure QuotaAlertEvent where
  ruleId : Str
  workspaceId : Str
  thresholdPct : Int
  channel : AlertChannel
  recipient : Str
  firedAt : Int
  -- the status, which is `sent` or `failed`
  sent : Bool
deriving DecidableEq

structure NamedKey extends ApiKeyRow where
  name : Str := "Primary"
deriving DecidableEq

structure WorkspaceCycle extends UsageCycle where
  workspaceId : Str
deriving DecidableEq

/-- A row of `request_records`, with `tags->>'key_label'`. -/
structure LabelledRequest where
  workspaceId : Str
  ts : Int
  keyLabel : Option Str
deriving DecidableEq

structure QuotaTables where
  rules : List AlertRule := []
  events : List QuotaAlertEvent := []
  apiKeys : List NamedKey := []
  cycles : List WorkspaceCycle := []
  requests : List LabelledRequest := []

structure RankedKey where
  key : NamedKey
  reqCount : Nat
deriving DecidableEq

/-- The cycles and the requests that the query joins to a key. -/
def QuotaTables.joined (db : QuotaTables) (now : Int) (key : NamedKey) :
    List (WorkspaceCycle × LabelledRequest) :=
  (db.cycles.filter fun cycle => cycle.workspaceId = key.workspaceId ∧ now ≤ cycle.cycleEnd).flatMap
    fun cycle =>
      (db.requests.filter fun request =>
        request.keyLabel = some key.name ∧ cycle.cycleStart ≤ request.ts).map (cycle, ·)

def QuotaTables.pausableKeys (db : QuotaTables) (workspaceId : Str) : List NamedKey :=
  db.apiKeys.filter fun key => key.workspaceId = workspaceId ∧ key.enabled

def QuotaTables.rankedKeys (db : QuotaTables) (now : Int) (workspaceId : Str) : List RankedKey :=
  (db.pausableKeys workspaceId).filterMap fun key =>
    let joined := db.joined now key
    if joined.isEmpty then none else some ⟨key, joined.length⟩

/-- What an action token is for. -/
structure ActionLink where
  action : Str
  workspaceId : Str
  targetId : Option Str := none
deriving DecidableEq

structure ChatAlert where
  webhookUrl : Str
  workspaceId : Str
  thresholdPct : Int
  current : Int
  limit : Int
  links : List ActionLink
deriving DecidableEq

structure EmailAlert where
  workspaceId : Str
  thresholdPct : Int
  current : Int
  limit : Int
  cycleEndDate : Str
  planLabel : Str
deriving DecidableEq

inductive QuotaMessage where
  | email (alert : EmailAlert)
  | slack (alert : ChatAlert)
  | teams (alert : ChatAlert)
deriving DecidableEq

/-- The links of a message, in the order of its buttons. -/
def actionLinks (workspaceId : Str) (topKeyId : Option Str) : List ActionLink :=
  ((topKeyId.filter fun id => id ≠ []).map fun id => ⟨"pause_api_key", workspaceId, some id⟩).toList ++
    [⟨"increase_budget", workspaceId, none⟩, ⟨"downgrade_model", workspaceId, none⟩]

/-- What the evaluation leaves to others. -/
structure AlertServices where
  byThreshold : OrderBy AlertRule.thresholdPct
  byRequests : OrderBy fun ranked : RankedKey => OrderDual.toDual ranked.reqCount
  -- the scheme and the host of a URL, which may fail to be one
  urlparse : Str → Option (Str × Option Str)
  -- whether the message is taken
  delivers : QuotaMessage → Bool

/-- What a dispatch posts, and whether that is taken. -/
abbrev Dispatch := List QuotaMessage × Bool

namespace AlertServices

variable (services : AlertServices)

def post (message : QuotaMessage) : Dispatch := ([message], services.delivers message)

def dispatchEmail (alert : EmailAlert) : Dispatch := services.post (.email alert)

/-- `none`, where the URL raises. -/
def dispatchSlack (alert : ChatAlert) : Option Dispatch :=
  (services.urlparse alert.webhookUrl).map fun (scheme, host) =>
    if scheme ≠ "https" ∨ host ≠ some ("hooks.slack.com" : Str) then ([], false)
    else services.post (.slack alert)

def isTeamsHost (host : Str) : Bool :=
  let suffixes : List Str := ["office.com", "microsoft.com"]
  suffixes.any fun suffix => host = suffix || ('.' :: suffix).isSuffixOf host

def dispatchTeams (alert : ChatAlert) : Option Dispatch :=
  (services.urlparse alert.webhookUrl).map fun (scheme, host) =>
    if scheme = "https" ∧ isTeamsHost ((host.getD []).map Char.toLower) then
      services.post (.teams alert)
    else ([], false)

end AlertServices

/-! ## Evaluation -/

/-- The arguments of `evaluate_workspace`. -/
structure WorkspaceQuota where
  workspaceId : Str
  planLabel : Str
  currentCount : Int
  monthlyCap : Int
  cycleEndDate : Str

structure FiredAlert where
  ruleId : Str
  workspaceId : Str
  thresholdPct : Int
  channel : AlertChannel
  sent : Bool
deriving DecidableEq

structure Evaluation where
  fired : List FiredAlert := []
  recorded : List QuotaAlertEvent := []
  posted : List QuotaMessage := []
deriving DecidableEq

def recentEvents (now : Int) (rule : AlertRule) (events : List QuotaAlertEvent) :
    List QuotaAlertEvent :=
  events.filter fun event => event.ruleId = rule.id ∧ now - 86400000000 < event.firedAt

def WorkspaceQuota.crossed (quota : WorkspaceQuota) (rule : AlertRule) : Bool :=
  decide (0 < quota.monthlyCap) &&
    decide ((rule.thresholdPct : ℚ) / 100 ≤ (quota.currentCount : ℚ) / quota.monthlyCap)

namespace AlertServices

variable (services : AlertServices) (quota : WorkspaceQuota) (now : Int)

def chatAlert (rule : AlertRule) (topKeyId : Option Str) (webhookUrl : Str) : ChatAlert where
  webhookUrl := webhookUrl
  workspaceId := quota.workspaceId
  thresholdPct := rule.thresholdPct
  current := quota.currentCount
  limit := quota.monthlyCap
  links := actionLinks quota.workspaceId topKeyId

/-- The dispatch to a webhook, with the recipient where there is one. -/
def dispatchChat (rule : AlertRule) (topKeyId : Option Str) : Option (Dispatch × Option Str) :=
  let slackUrl := rule.slackWebhookUrl.filter fun url => url ≠ []
  let teamsUrl := rule.teamsWebhookUrl.filter fun url => url ≠ []
  match rule.channel, slackUrl, teamsUrl with
  | .slack, some url, _ =>
    (services.dispatchSlack (chatAlert quota rule topKeyId url)).map fun dispatch =>
      (dispatch, some ("slack" : Str))
  | .both, some url, _ =>
    (services.dispatchSlack (chatAlert quota rule topKeyId url)).map fun dispatch =>
      (dispatch, none)
  | .teams, _, some url =>
    (services.dispatchTeams (chatAlert quota rule topKeyId url)).map fun dispatch =>
      (dispatch, some ("teams" : Str))
  | _, _, _ => some (([], false), none)

def emails (rule : AlertRule) : Bool :=
  match rule.channel with
  | .email | .both => true
  | _ => false

/-- The body of the loop, for a rule that is to fire. -/
def fire (e : Evaluation) (rule : AlertRule) (topKeyId : Option Str) : Evaluation :=
  let email : Dispatch := if emails rule then
      services.dispatchEmail ⟨quota.workspaceId, rule.thresholdPct, quota.currentCount,
        quota.monthlyCap, quota.cycleEndDate, quota.planLabel⟩
    else ([], false)
  match services.dispatchChat quota rule topKeyId with
  -- the exception of the rule is logged
  | none => { e with posted := e.posted ++ email.1 }
  | some (chat, name) =>
    let recipient := name.getD (if emails rule then "email:" ++ quota.workspaceId else [])
    let sent := email.2 || chat.2
    { fired := e.fired ++
        [⟨rule.id, quota.workspaceId, rule.thresholdPct, rule.channel, sent⟩]
      recorded := e.recorded ++
        [⟨rule.id, quota.workspaceId, rule.thresholdPct, rule.channel, recipient, now, sent⟩]
      posted := e.posted ++ email.1 ++ chat.1 }

def topKey (db : QuotaTables) : Option RankedKey :=
  (services.byRequests.order (db.rankedKeys now quota.workspaceId)).head?

def evaluateRule (db : QuotaTables) (e : Evaluation) (rule : AlertRule) : Evaluation :=
  if quota.crossed rule then
    let topKeyId := (services.topKey quota now db).map fun ranked => ranked.key.id
    if (recentEvents now rule (db.events ++ e.recorded)).isEmpty then
      services.fire quota now e rule topKeyId
    else e
  else e

def enabledRules (workspaceId : Str) (db : QuotaTables) : List AlertRule :=
  db.rules.filter fun rule => rule.workspaceId = workspaceId ∧ rule.enabled

def evaluateWorkspace (db : QuotaTables) : Evaluation :=
  (services.byThreshold.order (enabledRules quota.workspaceId db)).foldl
    (services.evaluateRule quota now db) {}

end AlertServices

end BurnLens.Backend
