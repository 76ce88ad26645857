import BurnLens.Budget.Ledger
import BurnLens.Proxy.Interceptor
import BurnLens.Budget.Lifecycle
import Mathlib.Tactic.Linarith

/-! # Seeding of budget counters

A counter that is created late in its period starts with what the ledger has recorded.  The
query that sums it up selects every request that the policy matches, and some that it does not:
those that its scope attributes to nobody, or to somebody else.
-/

namespace BurnLens.Proxy

open Library Providers Budget

/-! ## Requests of a period -/

/-- `a or b or ...` on optional strings, which may end in the empty one. -/
def orChain : List (Option Str) → Option Str
  | [] => none
  | [value] => value
  | some (c :: value) :: _ => some (c :: value)
  | _ :: values => orChain values

/-- What becomes of a request that is let through. -/
inductive Exit where
  -- the upstream cannot be reached, or the handler raises: not reconciled, and not recorded
  | raised
  -- `reconciled` is false where `reconcile` raised, which is logged; an error that answers a
  -- stream is not recorded, nor is a record that fails to be stored
  | answered (statusCode : Nat) (costUsd : Usd) (reconciled : Bool) (recordedAt : Option Time)

namespace Exit

def costUsd : Exit → Usd
  | raised => 0
  | answered _ costUsd _ _ => costUsd

def recordedAt : Exit → Option Time
  | raised => none
  | answered _ _ _ recordedAt => recordedAt

/-- The cost that the counters are reconciled with. -/
def reconciledCost : Exit → Option Usd
  | answered statusCode costUsd true _ => some (if statusCode < 400 then costUsd else 0)
  | _ => none

end Exit

/-- A request that `handle_request` lets through.  Only string models can be priced, so the
    model of a request that costs anything is one. -/
structure HandledRequest where
  environ : Environ
  headers : Headers
  tags : Tags
  model : Str
  -- what `check_and_reserve` reads, at the time that it does
  provider : Str
  body : Option Json
  reads : EngineReads
  exit : Exit

namespace HandledRequest

variable (request : HandledRequest)

/-- `_resolve_canonical_metadata`. -/
def orgId : Option Str :=
  orChain [lowerGet request.headers "x-burnlens-org-id", request.tags "org_id",
    request.environ "BURNLENS_ORG_ID", request.environ "BURNLENS_TAG_ORG_ID"]

def team : Option Str := orChain [request.tags "team", request.environ "BURNLENS_TAG_TEAM"]

def appId : Option Str :=
  orChain [lowerGet request.headers "x-burnlens-app-id", request.tags "app_id",
    request.environ "BURNLENS_APP_ID", request.environ "BURNLENS_TAG_APP_ID"]

def customer : Option Str := orChain [request.tags "customer", request.environ "BURNLENS_TAG_CUSTOMER"]

def customerHash (sha256 : Str → Str) : Option Str :=
  match request.customer with
  | none | some [] => none
  | some customer => some (sha256 customer)

def costUsd : Usd := request.exit.costUsd

/-- The row that is written when the request is recorded. -/
def rowAt (sha256 : Str → Str) (timestamp : Time) : LedgerRow where
  timestamp := timestamp
  model := request.model
  costUsd := request.costUsd
  orgId := request.orgId
  team := request.team
  appId := request.appId
  customerHash := request.customerHash sha256
  tags := request.tags

def row (sha256 : Str → Str) : Option LedgerRow := request.exit.recordedAt.map (request.rowAt sha256)

def recordedSince (since : Time) : Bool := request.exit.recordedAt.any fun timestamp => since ≤ timestamp

def context : RequestContext := requestContext request.environ request.headers request.tags

def matchedBy (policy : BudgetPolicy) : Bool := matchesPolicy policy request.model request.context

/-- What `check_and_reserve` holds for the request.  A check that raises, or that costs the
    request at nothing, lets it through with no reservation. -/
def reservation (policies : List BudgetPolicy) : Option Budget.Reservation :=
  match request.reads.checkAndReserve policies request.provider (.str request.model) request.body
    request.context with
  | .ok (.allowed (.fin estimatedCost) matching) =>
    if reserves : 0 < estimatedCost ∧ matching ≠ [] then
      some ⟨estimatedCost, matching, reserves.1, reserves.2⟩
    else none
  | _ => none

end HandledRequest

def ledger (sha256 : Str → Str) (requests : List HandledRequest) : List LedgerRow :=
  requests.filterMap fun request => request.row sha256

inductive CounterUpdate where
  | reserve (reservation : Budget.Reservation)
  | reconcile (actualCost : Usd) (reservation : Budget.Reservation)

def CounterUpdate.apply (counters : CounterKey → Usd) : CounterUpdate → CounterKey → Usd
  | reserve reservation => addToCounters counters reservation.policies reservation.estimatedCost
  | reconcile actualCost reservation => Budget.reconcile counters actualCost reservation

/-- The updates of one request, from its check to its exit. -/
def HandledRequest.updates (policies : List BudgetPolicy) (request : HandledRequest) :
    List CounterUpdate :=
  match request.reservation policies with
  | none => []
  | some reservation => .reserve reservation ::
    (request.exit.reconciledCost.map fun cost => .reconcile cost reservation).toList

/-- The counters after a schedule of updates that begins with the period. -/
def maintain (schedule : List CounterUpdate) : CounterKey → Usd :=
  schedule.foldl CounterUpdate.apply fun _ => 0

/-- A fresh counter holds the cost of the recorded requests that the policy matches, and with it
    what reservations and reconciliations, in whatever order the requests make them, would have
    left on a counter from the start of the period. -/
structure SeedingAgrees (sha256 : Str → Str) (policies : List BudgetPolicy) (policy : BudgetPolicy)
    (since : Time) (requests : List HandledRequest) : Prop where
  seeded : calculateInitialSpend sha256 policy since (ledger sha256 requests) =
    sumWhere (fun request => request.recordedSince since && request.matchedBy policy)
      HandledRequest.costUsd requests
  maintained : ∀ schedule : List CounterUpdate,
    schedule.Perm (requests.flatMap fun request => request.updates policies) →
    maintain schedule (counterKey (policy, since)) =
      calculateInitialSpend sha256 policy since (ledger sha256 requests)

/-! ## Selected, but not matched -/

def blank (value : Option Str) : Bool := value = none ∨ value = some []

/-- An attribute that is empty though it is set, or that a tag claims for the target though the
    request has another value. -/
def strayAttribute (target : Str) (value tag : Option Str) : Bool :=
  if target = "*" then blank value ∧ (value = some [] ∨ tag = some [])
  else if target = [] then value = some [] ∨ tag = some []
  else tag = some target ∧ value ≠ some target

/-- A customer that the policy does not see, since the environment names it, or that shares its
    hash with the target. -/
def strayCustomer (sha256 : Str → Str) (target : Str) (customer tag : Option Str) : Bool :=
  if target = "*" then blank tag ∧ (¬ blank customer ∨ tag = some [])
  else (target = [] ∧ tag = some []) ∨
    (tag ≠ some target ∧ ¬ blank customer ∧ customer.map sha256 = some (sha256 target))

def HandledRequest.strays (sha256 : Str → Str) (policy : BudgetPolicy)
    (request : HandledRequest) : Bool :=
  if policy.scope = "org" then
    if policy.target = "*" then blank request.orgId
    else strayAttribute policy.target request.orgId (request.tags "org_id")
  else if policy.scope = "team" then
    strayAttribute policy.target request.team (request.tags "team")
  else if policy.scope = "app" then
    strayAttribute policy.target request.appId (request.tags "app_id")
  else if policy.scope = "customer" then
    strayCustomer sha256 policy.target request.customer (request.tags "customer")
  else if policy.scope = "model" then
    request.model = [] ∧ (policy.target = "*" ∨ policy.target = [])
  else false

def matchesValue (target : Str) (value : Option Str) : Bool :=
  ¬ blank value ∧ (target = "*" ∨ value = some target)

theorem matchesPolicy_eq (policy : BudgetPolicy) (model : Str) (context : RequestContext) :
    matchesPolicy policy model context = matchesValue policy.target
      (if policy.scope = "org" then context.orgId
      else if policy.scope = "team" then context.team
      else if policy.scope = "app" then context.appId
      else if policy.scope = "customer" then context.customer
      else if policy.scope = "model" then some model
      else none) := by
  simp only [matchesPolicy, matchesValue]
  split
  · next absent => rw [absent]; rfl
  · next empty => rw [empty]; rfl
  · next value nonempty given =>
    have filled : value ≠ [] := by simpa using nonempty
    rw [given]
    simp [blank, filled, eq_comm (a := value)]

theorem matchesValue_firstNonempty (target : Str) (values : List (Option Str)) :
    matchesValue target (firstNonempty values) = matchesValue target (orChain values) := by
  induction values with
  | nil => rfl
  | cons value values inductionHypothesis =>
    match value, values with
    | none, [] => rfl
    | some [], [] => rfl
    | some (c :: rest), [] => rfl
    | none, next :: values => exact inductionHypothesis
    | some [], next :: values => exact inductionHypothesis
    | some (c :: rest), next :: values => rfl

/-- A condition selects what the policy matches and what is astray, which are never the same. -/
structure Selects (selected matched strays : Bool) : Prop where
  union : selected = (matched || strays)
  disjoint : (matched && strays) = false

theorem blank_eq_false {value : Option Str} : blank value = false ↔ ∃ v, value = some v ∧ v ≠ [] := by
  cases value <;> simp [blank]

theorem select_attribute {target : Str} {column : LedgerRow → Option Str} {tag : Str} {row : LedgerRow}
    (resolved : blank (column row) = true → blank (row.tags tag) = true) :
    Selects (attributeCondition column tag target row) (matchesValue target (column row))
      (strayAttribute target (column row) (row.tags tag)) := by
  simp only [attributeCondition, matchesValue, strayAttribute]
  generalize column row = value, row.tags tag = tagged at *
  by_cases every : target = "*"
  · cases given : blank value with
    | true =>
      -- nothing is matched, and both are selected for being set at all
      have tagBlank := resolved given
      simp only [blank, decide_eq_true_eq] at given tagBlank
      obtain rfl | rfl := given <;> obtain rfl | rfl := tagBlank <;> constructor <;> simp [every]
    | false =>
      obtain ⟨v, rfl, -⟩ := blank_eq_false.mp given
      constructor <;> simp [every]
  · simp only [every, false_or]
    by_cases here : value = some target
    · by_cases empty : target = []
      · constructor <;> simp [here, empty, blank]
      · constructor <;> simp [here, empty, blank]
    · by_cases empty : target = []
      · subst empty
        constructor <;> simp [here]
      · constructor <;> simp [here, empty]

theorem select_customer (sha256 : Str → Str) (target : Str) {customer tag hash : Option Str}
    (resolved : blank tag = false → customer = tag)
    (hashed : hash = if blank customer then none else customer.map sha256) :
    Selects (if target = "*" then decide (hash.isSome ∨ tag.isSome)
        else decide (hash = some (sha256 target) ∨ tag = some target))
      (matchesValue target tag) (strayCustomer sha256 target customer tag) := by
  simp only [matchesValue, strayCustomer]
  by_cases every : target = "*"
  · cases given : blank tag with
    | true =>
      have set : hash.isSome = !blank customer := by
        cases absent : blank customer with
        | true => simp [hashed, absent]
        | false =>
          obtain ⟨v, rfl, -⟩ := blank_eq_false.mp absent
          simp [hashed, absent]
      simp only [blank, decide_eq_true_eq] at given
      obtain rfl | rfl := given <;> constructor <;> simp [every, set]
    | false =>
      obtain ⟨v, rfl, -⟩ := blank_eq_false.mp given
      constructor <;> simp [every]
  · simp only [every, false_or, if_false]
    by_cases here : tag = some target
    · by_cases empty : target = []
      · constructor <;> simp [here, empty, blank]
      · constructor <;> simp [here, empty, blank]
    · have other : ¬ (target = [] ∧ tag = some []) := fun ⟨empty, tagged⟩ => here (empty ▸ tagged)
      constructor
      · cases absent : blank customer <;> simp [here, other, hashed, absent]
      · simp [here]

theorem blank_orChain {values : List (Option Str)} (absent : blank (orChain values) = true) :
    ∀ value ∈ values, blank value = true := by
  induction values with
  | nil => exact nofun
  | cons first values inductionHypothesis =>
    match first, values with
    | none, [] => simpa [orChain] using absent
    | some [], [] => simpa [orChain] using absent
    | some (c :: rest), [] => simp [orChain, blank] at absent
    | none, next :: values =>
      exact List.forall_mem_cons.mpr ⟨rfl, inductionHypothesis absent⟩
    | some [], next :: values =>
      exact List.forall_mem_cons.mpr ⟨rfl, inductionHypothesis absent⟩
    | some (c :: rest), next :: values => simp [orChain, blank] at absent

theorem orChain_of_not_blank {value : Option Str} (given : blank value = false)
    (values : List (Option Str)) : orChain (value :: values) = value := by
  obtain ⟨v, rfl, filled⟩ := blank_eq_false.mp given
  obtain ⟨c, rest, rfl⟩ := List.exists_cons_of_ne_nil filled
  cases values <;> rfl

theorem HandledRequest.customerHash_eq (request : HandledRequest) (sha256 : Str → Str) :
    request.customerHash sha256 =
      if blank request.customer then none else request.customer.map sha256 := by
  simp only [customerHash]
  split
  · next absent => simp [absent, blank]
  · next empty => simp [empty, blank]
  · next customer filled given =>
    have present : customer ≠ [] := by simpa using filled
    simp [given, blank, present]

/-- A policy is matched against the recorded attributes, but for the customer, of whom the
    context has the tag only. -/
theorem HandledRequest.matchedBy_eq (request : HandledRequest) (policy : BudgetPolicy) :
    request.matchedBy policy = matchesValue policy.target
      (if policy.scope = "org" then request.orgId
      else if policy.scope = "team" then request.team
      else if policy.scope = "app" then request.appId
      else if policy.scope = "customer" then request.tags "customer"
      else if policy.scope = "model" then some request.model
      else none) := by
  simp only [matchedBy, context, matchesPolicy_eq, requestContext]
  split
  · exact matchesValue_firstNonempty ..
  · split
    · exact matchesValue_firstNonempty ..
    · split
      · exact matchesValue_firstNonempty ..
      · rfl

theorem seedCondition_selects (sha256 : Str → Str) (policy : BudgetPolicy) (request : HandledRequest)
    (timestamp : Time) :
    Selects (((seedCondition sha256 policy).getD fun _ => false) (request.rowAt sha256 timestamp))
      (request.matchedBy policy) (request.strays sha256 policy) := by
  rw [HandledRequest.matchedBy_eq]
  simp only [seedCondition, HandledRequest.strays]
  by_cases org : policy.scope = "org"
  · simp only [if_pos org]
    by_cases every : policy.target = "*"
    · simp only [matchesValue, every]
      cases blank request.orgId <;> constructor <;> simp
    · simp only [if_neg every, Option.getD_some]
      exact select_attribute fun absent => blank_orChain absent _ (by simp [HandledRequest.rowAt])
  by_cases team : policy.scope = "team"
  · simp only [if_neg org, if_pos team, Option.getD_some]
    exact select_attribute fun absent => blank_orChain absent _ (by simp [HandledRequest.rowAt])
  by_cases app : policy.scope = "app"
  · simp only [if_neg org, if_neg team, if_pos app, Option.getD_some]
    exact select_attribute fun absent => blank_orChain absent _ (by simp [HandledRequest.rowAt])
  by_cases customer : policy.scope = "customer"
  · simp only [if_neg org, if_neg team, if_neg app, if_pos customer]
    have selected := select_customer sha256 policy.target
      (fun given => orChain_of_not_blank given [request.environ "BURNLENS_TAG_CUSTOMER"])
      (request.customerHash_eq sha256)
    by_cases every : policy.target = "*"
    · simp only [if_pos every] at selected ⊢
      exact selected
    · simp only [if_neg every] at selected ⊢
      exact selected
  by_cases model : policy.scope = "model"
  · simp only [if_neg org, if_neg team, if_neg app, if_neg customer, if_pos model, matchesValue]
    by_cases every : policy.target = "*"
    · by_cases empty : request.model = [] <;> constructor <;> simp [every, empty, blank]
    · simp only [every, false_or]
      by_cases empty : request.model = []
      · by_cases none : policy.target = [] <;> constructor <;>
          simp [empty, none, blank, HandledRequest.rowAt, Ne.symm]
      · constructor <;> simp [empty, blank, HandledRequest.rowAt]
  · simp only [if_neg org, if_neg team, if_neg app, if_neg customer, if_neg model]
    exact ⟨rfl, rfl⟩

/-! ## The sums -/

section Sums

variable {sha256 : Str → Str} {policies : List BudgetPolicy} {policy : BudgetPolicy} {since : Time}
  {requests : List HandledRequest}

def strayCost (sha256 : Str → Str) (policy : BudgetPolicy) (since : Time)
    (requests : List HandledRequest) : Usd :=
  sumWhere (fun request => request.recordedSince since && request.strays sha256 policy)
    HandledRequest.costUsd requests

theorem spendSince_ledger (condition : LedgerRow → Bool) :
    spendSince since condition (ledger sha256 requests) =
      sumWhere (fun request => request.exit.recordedAt.any fun timestamp =>
        decide (since ≤ timestamp) && condition (request.rowAt sha256 timestamp))
        HandledRequest.costUsd requests := by
  induction requests with
  | nil => rfl
  | cons request requests inductionHypothesis =>
    rw [sumWhere_cons, ← inductionHypothesis]
    simp only [ledger, spendSince, List.filterMap_cons, HandledRequest.row]
    cases request.exit.recordedAt with
    | none => simp
    | some timestamp => exact sumWhere_cons ..

theorem calculateInitialSpend_eq :
    calculateInitialSpend sha256 policy since (ledger sha256 requests) =
      sumWhere (fun request => request.recordedSince since && request.matchedBy policy)
        HandledRequest.costUsd requests + strayCost sha256 policy since requests := by
  have query : ∀ ledger, calculateInitialSpend sha256 policy since ledger =
      spendSince since ((seedCondition sha256 policy).getD fun _ => false) ledger := by
    intro ledger
    simp only [calculateInitialSpend]
    cases seedCondition sha256 policy with
    | some condition => rfl
    | none => simp [spendSince, sumWhere]
  rw [query, spendSince_ledger]
  refine sumWhere_split (fun request => ?_) (fun request => ?_) _ _
  · simp only [HandledRequest.recordedSince]
    cases request.exit.recordedAt with
    | none => rfl
    | some timestamp =>
      have selects := seedCondition_selects sha256 policy request timestamp
      simp only [Option.any_some, selects.union, Bool.and_or_distrib_left]
  · have apart := (seedCondition_selects sha256 policy request 0).disjoint
    cases request.recordedSince since
    · rfl
    · simpa using apart

/-! ### What the updates leave -/

def CounterUpdate.amount (key : CounterKey) : CounterUpdate → Usd
  | reserve reservation => (counterKeys reservation.policies).count key * reservation.estimatedCost
  | reconcile actualCost reservation =>
    (counterKeys reservation.policies).count key * (actualCost - reservation.estimatedCost)

theorem CounterUpdate.apply_eq (counters : CounterKey → Usd) (update : CounterUpdate)
    (key : CounterKey) : update.apply counters key = counters key + update.amount key := by
  cases update with
  | reserve reservation => exact Traffic.addToCounters_apply ..
  | reconcile actualCost reservation => exact Traffic.reconcile_apply ..

theorem maintain_eq (schedule : List CounterUpdate) (key : CounterKey) :
    maintain schedule key = (schedule.map fun update => update.amount key).sum := by
  have from_ : ∀ counters : CounterKey → Usd, schedule.foldl CounterUpdate.apply counters key =
      counters key + (schedule.map fun update => update.amount key).sum := by
    induction schedule with
    | nil => simp
    | cons update schedule inductionHypothesis =>
      intro counters
      rw [List.foldl_cons, inductionHypothesis, update.apply_eq, List.map_cons, List.sum_cons, add_assoc]
  simp [maintain, from_]

/-- What the request leaves on a counter: its reservation, or what that was reconciled with. -/
def HandledRequest.left (policies : List BudgetPolicy) (key : CounterKey)
    (request : HandledRequest) : Usd :=
  match request.reservation policies with
  | none => 0
  | some reservation => (counterKeys reservation.policies).count key *
    request.exit.reconciledCost.getD reservation.estimatedCost

theorem HandledRequest.amount_updates (request : HandledRequest) (key : CounterKey) :
    ((request.updates policies).map fun update => update.amount key).sum =
      request.left policies key := by
  simp only [updates, left]
  cases request.reservation policies with
  | none => rfl
  | some reservation =>
    cases request.exit.reconciledCost with
    | none => simp [CounterUpdate.amount]
    | some cost =>
      simp only [CounterUpdate.amount, Option.map_some, Option.toList_some, List.map_cons,
        List.map_nil, List.sum_cons, List.sum_nil, Option.getD_some]
      ring

theorem maintain_perm {schedule : List CounterUpdate}
    (perm : schedule.Perm (requests.flatMap fun request => request.updates policies))
    (key : CounterKey) :
    maintain schedule key = (requests.map fun request => request.left policies key).sum := by
  rw [maintain_eq, (perm.map _).sum_eq]
  clear perm
  induction requests with
  | nil => rfl
  | cons request requests inductionHypothesis =>
    rw [List.flatMap_cons, List.map_append, List.sum_append, inductionHypothesis,
      request.amount_updates, List.map_cons, List.sum_cons]

/-- The request is reserved once on the counter of the policy, and then reconciled with the
    cost that is recorded for it in the period. -/
def HandledRequest.settles (policies : List BudgetPolicy) (policy : BudgetPolicy) (since : Time)
    (request : HandledRequest) : Bool :=
  (request.reservation policies).any (fun reservation =>
    decide ((counterKeys reservation.policies).count (counterKey (policy, since)) = 1)) &&
  decide (request.exit.reconciledCost = some request.costUsd) &&
  (request.recordedSince since && request.matchedBy policy)

theorem HandledRequest.left_of_settles {request : HandledRequest}
    (settles : request.settles policies policy since = true) :
    request.left policies (counterKey (policy, since)) = request.costUsd := by
  simp only [HandledRequest.settles, Bool.and_eq_true, decide_eq_true_eq] at settles
  obtain ⟨⟨once, reconciled⟩, -⟩ := settles
  obtain ⟨reservation, reserved, single⟩ := (Option.any_eq_true ..).mp once
  simp only [decide_eq_true_eq] at single
  simp [left, reserved, single, reconciled]

/-- What the other requests leave on the counter: reservations of requests that were never
    reconciled, and costs that are not recorded in the period or are added twice. -/
def leftCost (policies : List BudgetPolicy) (policy : BudgetPolicy) (since : Time)
    (requests : List HandledRequest) : Usd :=
  sumWhere (fun request => !request.settles policies policy since)
    (HandledRequest.left policies (counterKey (policy, since))) requests

/-- What the other requests are recorded at: those without a reservation, or reserved in an
    earlier period, and those that fail. -/
def missedCost (policies : List BudgetPolicy) (policy : BudgetPolicy) (since : Time)
    (requests : List HandledRequest) : Usd :=
  sumWhere (fun request => !request.settles policies policy since &&
    (request.recordedSince since && request.matchedBy policy)) HandledRequest.costUsd requests

/-- A request that settles leaves on the counter what it is recorded at. -/
theorem left_add_missed :
    (requests.map fun request => request.left policies (counterKey (policy, since))).sum +
        missedCost policies policy since requests =
      sumWhere (fun request => request.recordedSince since && request.matchedBy policy)
        HandledRequest.costUsd requests + leftCost policies policy since requests := by
  induction requests with
  | nil => rfl
  | cons request requests inductionHypothesis =>
    simp only [missedCost, leftCost] at inductionHypothesis ⊢
    rw [List.map_cons, List.sum_cons, sumWhere_cons, sumWhere_cons, sumWhere_cons]
    cases settles : request.settles policies policy since with
    | false =>
      simp only [Bool.not_false, Bool.true_and, if_true]
      linarith
    | true =>
      have matched : (request.recordedSince since && request.matchedBy policy) = true :=
        (Bool.and_eq_true_iff.mp settles).2
      simp only [Bool.not_true, Bool.false_and, Bool.false_eq_true, if_false, matched, if_true,
        HandledRequest.left_of_settles settles]
      linarith

end Sums

def untaggedRequest : HandledRequest where
  environ _ := none
  headers := []
  tags _ := none
  model := "gpt-4o"
  provider := "openai"
  body := none
  reads :=
    { tables := fun _ => [], today := 0, strLength := fun _ => 0, now := 0,
      blockUnpricedModels := false, counters := fun _ => none, recorded := fun _ _ => 0 }
  exit := .answered 200 1 true (some 0)

def orgsCap : BudgetPolicy := ⟨"orgs", "org", "*", 10, "monthly"⟩

end BurnLens.Proxy
