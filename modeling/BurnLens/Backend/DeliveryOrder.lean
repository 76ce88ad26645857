import BurnLens.Backend.Receive
import BurnLens.Library.LastWrite

/-! # Billing webhooks out of order

No handler compares the times of events: each overwrites the columns it knows.  A column holds
what the last delivered of its writers wrote, and the events of a subscription count from the
first activation on, which stores the id they are matched by.
-/

namespace BurnLens.Backend

open Library

/-! ## Columns -/

/-- A column of a workspace, and what the statements write to it. -/
structure BillingColumn (β : Type) where
  read : BillingRow → β
  live : SubscriptionColumns → β
  canceled : Option β
  failed : Option β

def BillingColumn.written {β : Type} (column : BillingColumn β) : BillingOp → Option β
  | .activate _ _ _ columns | .update _ columns => some (column.live columns)
  | .cancel _ => column.canceled
  | .pastDue _ => column.failed
  | _ => none

def planColumn : BillingColumn Str :=
  ⟨BillingRow.plan, SubscriptionColumns.plan, some "free", none⟩

def statusColumn : BillingColumn (Option Str) :=
  ⟨BillingRow.subscriptionStatus, fun columns => some columns.status, some (some "canceled"),
    some (some "past_due")⟩

def periodColumn : BillingColumn (Option Int) :=
  ⟨BillingRow.currentPeriodEndsAt, SubscriptionColumns.currentPeriodEndsAt, none, none⟩

def cancelFlagColumn : BillingColumn Bool :=
  ⟨BillingRow.cancelAtPeriodEnd, SubscriptionColumns.cancelAtPeriodEnd, none, none⟩

/-- What the billing pages read of a workspace. -/
structure BillingState where
  plan : Str
  subscriptionStatus : Option Str
  currentPeriodEndsAt : Option Int
  cancelAtPeriodEnd : Bool
deriving DecidableEq

def BillingRow.state (row : BillingRow) : BillingState where
  plan := row.plan
  subscriptionStatus := row.subscriptionStatus
  currentPeriodEndsAt := row.currentPeriodEndsAt
  cancelAtPeriodEnd := row.cancelAtPeriodEnd

/-- A row that the statements of the subscription match. -/
def BillingRow.Bound (subscription : Str) (row : BillingRow) : Prop :=
  row.subscriptionHash = some subscription

instance (subscription : Str) (row : BillingRow) : Decidable (row.Bound subscription) :=
  inferInstanceAs (Decidable (_ = _))

/-- A statement about this subscription, and this workspace. -/
def BillingOp.Concerns (workspaceId subscription : Str) : BillingOp → Prop
  | .activate id _ hash _ => id = workspaceId ∧ hash = some subscription
  | .update hash _ | .cancel hash | .pastDue hash => hash = some subscription
  | _ => True

def BillingOp.activates : BillingOp → Bool
  | .activate _ _ _ _ => true
  | _ => false

/-- The statements that find the row: all of them, or those from the first activation on. -/
def finding (subscription : Str) (row : BillingRow) (ops : List BillingOp) : List BillingOp :=
  if row.Bound subscription then ops else ops.dropWhile fun op => !op.activates

section

variable {workspaceId subscription : Str} {row : BillingRow} {op : BillingOp} {β : Type}
  {column : BillingColumn β}

/-- A column that the statements write as it says. -/
def BillingColumn.Lawful (column : BillingColumn β) : Prop :=
  ∀ (workspaceId subscription : Str) (row : BillingRow) (op : BillingOp), row.id = workspaceId →
    op.Concerns workspaceId subscription → row.Bound subscription ∨ op.activates = true →
    column.read (op.onRow row) = (column.written op).getD (column.read row)

theorem has_of_bound (bound : row.Bound subscription) : row.has (some subscription) = true := by
  have hash : row.subscriptionHash = some subscription := bound
  simp [BillingRow.has, hash]

theorem onRow_id : (op.onRow row).id = row.id := by
  cases op <;> simp only [BillingOp.onRow] <;> first | rfl | (split <;> rfl)

theorem onRow_bound (its : row.id = workspaceId) (concerns : op.Concerns workspaceId subscription)
    (found : row.Bound subscription ∨ op.activates = true) :
    (op.onRow row).Bound subscription := by
  cases op with
  | activate id customer hash columns =>
    obtain ⟨rfl, rfl⟩ := concerns
    simp only [BillingOp.onRow, if_pos its]
    rfl
  | update hash columns =>
    obtain bound | never := found
    · simp only [BillingOp.onRow]
      split <;> exact bound
    · cases never
  | cancel hash | pastDue hash =>
    obtain bound | never := found
    · simp only [BillingOp.onRow]
      split <;> exact bound
    · cases never
  | planOfPrice | workspaceOf | workspaceById | seed | mail =>
    obtain bound | never := found
    · exact bound
    · cases never

theorem onRow_unbound (unbound : ¬ row.Bound subscription)
    (concerns : op.Concerns workspaceId subscription) (other : op.activates = false) :
    op.onRow row = row := by
  have misses : row.has (some subscription) = false := by
    have apart : row.subscriptionHash ≠ some subscription := unbound
    simp [BillingRow.has, apart]
  cases op with
  | activate => cases other
  | update hash columns =>
    cases concerns
    simp only [BillingOp.onRow, misses, Bool.false_eq_true, if_false]
  | cancel hash | pastDue hash =>
    cases concerns
    simp only [BillingOp.onRow, misses, Bool.false_eq_true, if_false]
  | planOfPrice | workspaceOf | workspaceById | seed | mail => rfl

theorem lawful_of (live : ∀ row columns, column.read (BillingRow.subscribe row columns) = column.live columns)
    (activation : ∀ row customer hash,
      column.read { row with customerHash := customer, subscriptionHash := hash } = column.read row)
    (canceled : ∀ row : BillingRow,
      column.read { row with plan := "free", subscriptionStatus := some "canceled" } =
        column.canceled.getD (column.read row))
    (failed : ∀ row : BillingRow,
      column.read { row with subscriptionStatus := some "past_due" } =
        column.failed.getD (column.read row)) : column.Lawful := by
  intro workspaceId subscription row op its concerns found
  cases op with
  | activate id customer hash columns =>
    obtain ⟨rfl, rfl⟩ := concerns
    simp only [BillingOp.onRow, if_pos its, BillingColumn.written, Option.getD_some]
    rw [activation, live]
  | update hash columns =>
    obtain bound | never := found
    · cases concerns
      simp only [BillingOp.onRow, has_of_bound bound, if_true, live]
      rfl
    · cases never
  | cancel hash =>
    obtain bound | never := found
    · cases concerns
      simp only [BillingOp.onRow, has_of_bound bound, if_true, canceled]
      rfl
    · cases never
  | pastDue hash =>
    obtain bound | never := found
    · cases concerns
      simp only [BillingOp.onRow, has_of_bound bound, if_true, failed]
      rfl
    · cases never
  | planOfPrice | workspaceOf | workspaceById | seed | mail => rfl

theorem planColumn_lawful : planColumn.Lawful :=
  lawful_of (fun _ _ => rfl) (fun _ _ _ => rfl) (fun _ => rfl) fun _ => rfl

theorem statusColumn_lawful : statusColumn.Lawful :=
  lawful_of (fun _ _ => rfl) (fun _ _ _ => rfl) (fun _ => rfl) fun _ => rfl

theorem periodColumn_lawful : periodColumn.Lawful :=
  lawful_of (fun _ _ => rfl) (fun _ _ _ => rfl) (fun _ => rfl) fun _ => rfl

theorem cancelFlagColumn_lawful : cancelFlagColumn.Lawful :=
  lawful_of (fun _ _ => rfl) (fun _ _ _ => rfl) (fun _ => rfl) fun _ => rfl

/-- A column holds its last write. -/
theorem BillingColumn.Lawful.foldl (lawful : column.Lawful) {ops : List BillingOp}
    (its : row.id = workspaceId) (concerns : ∀ op ∈ ops, op.Concerns workspaceId subscription) :
    column.read (ops.foldl (fun row op => op.onRow row) row) =
      (lastWrite column.written (finding subscription row ops)).getD (column.read row) := by
  induction ops generalizing row with
  | nil => simp [finding]
  | cons op ops inductionHypothesis =>
    have own := concerns op (List.mem_cons_self ..)
    have rest := fun op' member => concerns op' (List.mem_cons_of_mem op member)
    rw [List.foldl_cons, inductionHypothesis (onRow_id.trans its) rest]
    by_cases found : row.Bound subscription ∨ op.activates = true
    · have all : finding subscription row (op :: ops) = op :: ops := by
        obtain bound | activation := found
        · exact if_pos bound
        · rw [finding]
          split
          · rfl
          · exact List.dropWhile_cons_of_neg (by simp [activation])
      rw [all, lastWrite_cons, finding, if_pos (onRow_bound its own found),
        lawful workspaceId subscription row op its own found]
    · obtain ⟨unbound, other⟩ := not_or.mp found
      have other : op.activates = false := by simpa using other
      rw [onRow_unbound unbound own other, finding, if_neg unbound, finding, if_neg unbound,
        List.dropWhile_cons_of_pos (by simp [other])]

end

/-! ## Deliveries one after the other -/

section

variable (services : PaddleServices)

def BillingWorld.deliverAll (w : BillingWorld) (events : List PaddleEvent) : BillingWorld :=
  events.foldl (BillingWorld.receive services) w

def statements (events : List PaddleEvent) : List BillingOp :=
  events.filterMap fun event => (event.change services).toOption.join

def BillingWorld.billing (w : BillingWorld) (workspaceId : Str) : Option BillingState :=
  (w.workspaces.find? fun row => row.id = workspaceId).map BillingRow.state

def lastWritten (subscription : Str) (row : BillingRow) (events : List PaddleEvent) :
    BillingState :=
  let ops := finding subscription row (statements services events)
  { plan := (lastWrite planColumn.written ops).getD row.plan
    subscriptionStatus := (lastWrite statusColumn.written ops).getD row.subscriptionStatus
    currentPeriodEndsAt := (lastWrite periodColumn.written ops).getD row.currentPeriodEndsAt
    cancelAtPeriodEnd := (lastWrite cancelFlagColumn.written ops).getD row.cancelAtPeriodEnd }

/-- An event about this subscription and this workspace. -/
def PaddleEvent.Concerns (workspaceId subscription : Str) (event : PaddleEvent) : Prop :=
  ∀ op, event.change services = .ok (some op) → op.Concerns workspaceId subscription

variable {services} {w : BillingWorld} {workspaceId subscription : Str} {row : BillingRow}

theorem changing_eq_foldl (x : Except PyError (Option BillingOp)) (row : BillingRow) :
    changing x row = x.toOption.join.toList.foldl (fun row op => op.onRow row) row := by
  rcases x with error | _ | op <;> rfl

theorem deliverAll_workspaces (healthy : w.health = .up) (events : List PaddleEvent) :
    (w.deliverAll services events).workspaces = w.workspaces.map fun row =>
      (statements services (firsts PaddleEvent.eventId w.recorded events)).foldl
        (fun row op => op.onRow row) row := by
  induction events generalizing w with
  | nil => exact (List.map_id w.workspaces).symm
  | cons event events inductionHypothesis =>
    show ((w.receive services event).deliverAll services events).workspaces = _
    rw [inductionHypothesis (receive_health.trans healthy), firsts]
    have recorded : (w.receive services event).recorded =
        fun id => w.recorded id || id = event.eventId := funext receive_recorded
    cases new : w.recorded event.eventId with
    | true =>
      rw [if_pos rfl]
      simp only [BillingWorld.receive, new, if_true]
    | false =>
      rw [if_neg (by simp), recorded, receive_workspaces healthy event new, List.map_map]
      congr 1
      funext row
      rw [Function.comp_apply, changing_eq_foldl, statements, statements, List.filterMap_cons]
      cases (event.change services).toOption.join <;> rfl

/-- The billing state is what was written last. -/
theorem billing_deliverAll (healthy : w.health = .up) {events : List PaddleEvent}
    (concerns : ∀ event ∈ events, event.Concerns services workspaceId subscription)
    (there : (w.workspaces.find? fun row => row.id = workspaceId) = some row) :
    (w.deliverAll services events).billing workspaceId =
      some (lastWritten services subscription row
        (firsts PaddleEvent.eventId w.recorded events)) := by
  have its : row.id = workspaceId := by simpa using List.find?_some there
  have about : ∀ op ∈ statements services (firsts PaddleEvent.eventId w.recorded events),
      op.Concerns workspaceId subscription := by
    intro op member
    obtain ⟨event, first, changes⟩ := List.mem_filterMap.mp member
    rcases changed : event.change services with error | _ | op'
    · rw [changed] at changes
      cases changes
    · rw [changed] at changes
      cases changes
    · rw [changed] at changes
      cases changes
      exact concerns event (mem_of_mem_firsts first) op changed
  have ids : ∀ (ops : List BillingOp) (row : BillingRow),
      (ops.foldl (fun row op => op.onRow row) row).id = row.id := by
    intro ops
    induction ops with
    | nil => exact fun _ => rfl
    | cons op ops inductionHypothesis =>
      exact fun row => (inductionHypothesis _).trans onRow_id
  have after : ((w.deliverAll services events).workspaces.find? fun row => row.id = workspaceId) =
      some ((statements services (firsts PaddleEvent.eventId w.recorded events)).foldl
        (fun row op => op.onRow row) row) := by
    rw [deliverAll_workspaces healthy, List.find?_map]
    simp only [Function.comp_def, ids, there, Option.map_some]
  rw [BillingWorld.billing, after, Option.map_some]
  refine congrArg some ?_
  simp only [BillingRow.state, lastWritten, BillingState.mk.injEq]
  exact ⟨planColumn_lawful.foldl its about, statusColumn_lawful.foldl its about,
    periodColumn_lawful.foldl its about, cancelFlagColumn_lawful.foldl its about⟩

variable {history delivered before after : List PaddleEvent} {cancellation : PaddleEvent}

/-- A subscription that was started stays on the free plan after the last event that writes the
    plan was a cancellation. -/
theorem lastWritten_canceled
    (started : row.Bound subscription ∨
      ∃ event ∈ before, ∃ op, event.change services = .ok (some op) ∧ op.activates = true)
    (canceled : cancellation.change services = .ok (some (.cancel (some subscription))))
    (silent : ∀ event ∈ after, ∀ op, event.change services = .ok (some op) →
      planColumn.written op = none) :
    (lastWritten services subscription row (before ++ cancellation :: after)).plan = "free" := by
  have split : statements services (before ++ cancellation :: after) =
      statements services before ++ .cancel (some subscription) :: statements services after := by
    rw [statements, List.filterMap_append, List.filterMap_cons, canceled]
    rfl
  have quiet : lastWrite planColumn.written (statements services after) = none := by
    apply lastWrite_eq_none
    intro op member
    obtain ⟨event, later, changes⟩ := List.mem_filterMap.mp member
    rcases changed : event.change services with error | _ | op'
    · rw [changed] at changes
      cases changes
    · rw [changed] at changes
      cases changes
    · rw [changed] at changes
      cases changes
      exact silent event later op changed
  have kept : ∃ ops, finding subscription row (statements services (before ++ cancellation :: after)) =
      ops ++ .cancel (some subscription) :: statements services after := by
    rw [split, finding]
    split
    · exact ⟨_, rfl⟩
    · rename_i unbound
      obtain ⟨event, member, op, changed, activates⟩ := started.resolve_left unbound
      have there : op ∈ statements services before := by
        refine List.mem_filterMap.mpr ⟨event, member, ?_⟩
        rw [changed]
        rfl
      have nonempty : (statements services before).dropWhile (fun op => !op.activates) ≠ [] := by
        intro empty
        have all := List.dropWhile_eq_nil_iff.mp empty op there
        rw [activates] at all
        cases all
      refine ⟨(statements services before).dropWhile fun op => !op.activates, ?_⟩
      rw [List.dropWhile_append, if_neg (by simpa using nonempty)]
  obtain ⟨ops, found⟩ := kept
  show (lastWrite planColumn.written (finding subscription row _)).getD row.plan = _
  rw [found, lastWrite_append, lastWrite_cons, quiet]
  rfl

/-- What the order of delivery decides: with every event of the subscription delivered, any
    number of times and in any order, the billing state is that of in-order delivery exactly if
    the last write of each column among the first deliveries is the one of the last event that
    occurred; and a cancellation delivered after the last activation and update leaves the free
    plan. -/
theorem delivery_order (services : PaddleServices) (w : BillingWorld) (healthy : w.health = .up)
    (workspaceId subscription : Str) (row : BillingRow)
    (there : (w.workspaces.find? fun row => row.id = workspaceId) = some row)
    (history delivered : List PaddleEvent) (distinct : (history.map PaddleEvent.eventId).Nodup)
    (new : ∀ event ∈ history, w.recorded event.eventId = false)
    (concerns : ∀ event ∈ history, event.Concerns services workspaceId subscription)
    (same : ∀ event, event ∈ delivered ↔ event ∈ history) :
    ((w.deliverAll services delivered).billing workspaceId =
        (w.deliverAll services history).billing workspaceId ↔
      lastWritten services subscription row (firsts PaddleEvent.eventId w.recorded delivered) =
        lastWritten services subscription row history) ∧
    ∀ (before : List PaddleEvent) (cancellation : PaddleEvent) (after : List PaddleEvent),
      firsts PaddleEvent.eventId w.recorded delivered = before ++ cancellation :: after →
      (row.Bound subscription ∨
        ∃ event ∈ before, ∃ op, event.change services = .ok (some op) ∧ op.activates = true) →
      cancellation.change services = .ok (some (.cancel (some subscription))) →
      (∀ event ∈ after, ∀ op, event.change services = .ok (some op) →
        planColumn.written op = none) →
      ((w.deliverAll services delivered).billing workspaceId).map BillingState.plan =
        some ("free" : Str) := by
  have outcome := billing_deliverAll healthy
    (fun event member => concerns event ((same event).mp member)) there
  constructor
  · rw [outcome, billing_deliverAll healthy concerns there, firsts_of_nodup distinct new,
      Option.some.injEq]
  · intro before cancellation after order started canceled silent
    rw [outcome, order, Option.map_some, lastWritten_canceled started canceled silent]

/-! ## An update that comes late -/

/-- An event of a subscription to the cloud plan. -/
def cloudEvent (eventId eventType : Str) : PaddleEvent :=
  ⟨eventId, eventType, .obj [("id", .str "sub_1"),
    ("custom_data", .obj [("workspace_id", .str "w")]),
    ("items", .arr [.obj [("price", .obj [("id", .str "pri_cloud")])]])]⟩

/-- The workspace subscribes, renews, and cancels. -/
def subscribed : List PaddleEvent :=
  [cloudEvent "evt_1" "subscription.activated", cloudEvent "evt_2" "subscription.updated",
    cloudEvent "evt_3" "subscription.canceled"]

/-- The renewal is delivered after the cancellation. -/
def renewedLate : List PaddleEvent :=
  [cloudEvent "evt_1" "subscription.activated", cloudEvent "evt_3" "subscription.canceled",
    cloudEvent "evt_2" "subscription.updated"]

def oneWorkspace : BillingWorld where
  workspaces := [{ id := "w" }]

theorem subscribed_concerns (event : PaddleEvent) (member : event ∈ subscribed) :
    event.Concerns cloudServices "w" "sub_1" := by
  intro op changed
  simp only [subscribed, List.mem_cons, List.not_mem_nil, or_false] at member
  obtain rfl | rfl | rfl := member
  · cases changed
    exact ⟨rfl, rfl⟩
  · cases changed
    rfl
  · cases changed
    rfl

/-- Every event twice, in order. -/
theorem delivery_order_subscribed :
    ((oneWorkspace.deliverAll cloudServices (subscribed ++ subscribed)).billing "w" =
        (oneWorkspace.deliverAll cloudServices subscribed).billing "w" ↔
      lastWritten cloudServices "sub_1" { id := "w" }
          (firsts PaddleEvent.eventId oneWorkspace.recorded (subscribed ++ subscribed)) =
        lastWritten cloudServices "sub_1" { id := "w" } subscribed) ∧
    ∀ (before : List PaddleEvent) (cancellation : PaddleEvent) (after : List PaddleEvent),
      firsts PaddleEvent.eventId oneWorkspace.recorded (subscribed ++ subscribed) =
        before ++ cancellation :: after →
      (({ id := "w" } : BillingRow).Bound "sub_1" ∨ ∃ event ∈ before, ∃ op,
        event.change cloudServices = .ok (some op) ∧ op.activates = true) →
      cancellation.change cloudServices = .ok (some (.cancel (some "sub_1"))) →
      (∀ event ∈ after, ∀ op, event.change cloudServices = .ok (some op) →
        planColumn.written op = none) →
      ((oneWorkspace.deliverAll cloudServices (subscribed ++ subscribed)).billing "w").map
        BillingState.plan = some ("free" : Str) :=
  delivery_order cloudServices oneWorkspace rfl "w" "sub_1" { id := "w" } rfl subscribed
    (subscribed ++ subscribed) (by decide +kernel) (fun _ _ => rfl) subscribed_concerns
    fun event => by rw [List.mem_append, or_self]

/-- A late renewal undoes a cancellation: the workspace stays on the paid plan. -/
theorem late_renewal_reactivates :
    ¬ ∀ (services : PaddleServices) (w : BillingWorld) (workspaceId subscription : Str)
      (row : BillingRow) (history delivered : List PaddleEvent), w.health = .up →
      (w.workspaces.find? fun row => row.id = workspaceId) = some row →
      (history.map PaddleEvent.eventId).Nodup →
      (∀ event ∈ history, w.recorded event.eventId = false) →
      (∀ event ∈ history, event.Concerns services workspaceId subscription) →
      (∀ event, event ∈ delivered ↔ event ∈ history) →
      (w.deliverAll services delivered).billing workspaceId =
        (w.deliverAll services history).billing workspaceId := by
  intro claim
  have same := claim cloudServices oneWorkspace "w" "sub_1" { id := "w" } subscribed renewedLate rfl
    rfl (by decide +kernel) (fun _ _ => rfl) subscribed_concerns (by
      intro event
      simp only [subscribed, renewedLate, List.mem_cons, List.not_mem_nil, or_false]
      constructor
      · rintro (h | h | h) <;> simp [h]
      · rintro (h | h | h) <;> simp [h])
  have late : ((oneWorkspace.deliverAll cloudServices renewedLate).billing "w").map
      BillingState.plan = some ("cloud" : Str) := by decide +kernel
  have inOrder : ((oneWorkspace.deliverAll cloudServices subscribed).billing "w").map
      BillingState.plan = some ("free" : Str) := by decide +kernel
  rw [same, inOrder] at late
  cases late

end

end BurnLens.Backend
