import BurnLens.Alerts.Dispatch

/-! # Once per period

What makes an alert go out once in its period: that it is marked by one check before another looks
for it, that it is remembered under a key of its period, and that no budget ends a check.
-/

namespace BurnLens.Alerts

open Library Budget

/-- What is sent is sent once, and a check that has ended leaves nothing unsent that it has seen. -/
structure AlertsOnce (s : AlertState) : Prop where
  atMostOnce : s.world.sent.Nodup
  atLeastOnce : ∀ check seen, (check, .ended seen) ∈ s.calls → ∀ id ∈ seen, id ∈ s.world.sent

section

variable (config : EngineConfig)

/-- What is remembered under the key of an alert is this alert, and conversely. -/
def AlertWorld.Agrees {α : Type} (w : AlertWorld) (entry : α → FiredKey × AlertId)
    (alerts : List α) : Prop :=
  ∀ a ∈ alerts, ∀ f ∈ w.fired, f.1 = (entry a).1 ↔ f.2 = (entry a).2

instance {α : Type} (w : AlertWorld) (entry : α → FiredKey × AlertId) (alerts : List α) :
    Decidable (w.Agrees entry alerts) :=
  inferInstanceAs (Decidable (∀ a ∈ alerts, _))

/-- No budget of zero is divided by; an alert is sent that is not marked yet; the keys and the
    customers are remembered by their periods; the terminal shows what is new, and takes it. -/
def AlertPhase.Sound (w : AlertWorld) : AlertPhase → Prop
  | .querying now ((period, budgetUsd) :: _) _ =>
    w.readable = true → w.spent period now ≠ 0 → budgetUsd ≠ 0
  | .sending _ (a :: _) => w.isFired a.key = false
  | .markingKeys day alerts =>
    let entry := KeyBudgetAlert.entry (dayNumber (config.zone.todayStart w.now)) day
    w.Agrees entry alerts ∧
      (config.terminal = true → ∀ a ∈ w.unmarked entry alerts, w.printsKey config a = true)
  | .markingCustomers month alerts =>
    w.Agrees (CustomerBudgetAlert.entry month) alerts ∧
      (config.terminal = true → ∀ a ∈ alerts,
        w.isFired (CustomerBudgetAlert.entry month a).1 = false ∧ config.printsCustomer a = true)
  | _ => True

instance (w : AlertWorld) (phase : AlertPhase) : Decidable (phase.Sound config w) := by
  unfold AlertPhase.Sound
  split <;> infer_instance

def dispatchesSoundly : AlertState → AlertLabel → Prop :=
  Fleet.Meets (fun w _ phase => phase.Sound config w) fun _ _ => True

instance (s : AlertState) (l : AlertLabel) : Decidable (dispatchesSoundly config s l) :=
  match l with
  | .advance k => inferInstanceAs (Decidable (∀ c ∈ s.calls[k]?, c.2.Sound config s.world))
  | .happen _ => inferInstanceAs (Decidable True)

end

/-- The key of a period's budget says all that the alert is about. -/
def Faithful (f : FiredKey × AlertId) : Prop :=
  ∀ period threshold start, f.1 = .budget period threshold start ↔ f.2 = .budget period threshold start

structure AlertWorld.Once (w : AlertWorld) : Prop where
  nodup : w.sent.Nodup
  sent_iff : ∀ id, id ∈ w.sent ↔ ∃ f ∈ w.fired, f.2 = id
  faithful : ∀ f ∈ w.fired, Faithful f

def AlertPhase.Known (w : AlertWorld) : AlertPhase → Prop
  | .sending seen alerts => ∀ id ∈ seen, id ∈ w.sent ∨ ∃ a ∈ alerts, a.id = id
  | .ended seen => ∀ id ∈ seen, id ∈ w.sent
  | .markingCustomers _ alerts => (alerts.map CustomerBudgetAlert.customer).Nodup
  | _ => True

structure AlertInvariant (s : AlertState) : Prop where
  once : s.world.Once
  calls : s.Each fun w _ phase => phase.Known w

section

variable {config : EngineConfig} {s : AlertState} {w w' : AlertWorld} {k : Nat}
  {check : AlertCheck} {phase next : AlertPhase} {α : Type} {entry : α → FiredKey × AlertId}
  {alerts : List α}

theorem isFired_iff {key : FiredKey} : w.isFired key = true ↔ ∃ f ∈ w.fired, f.1 = key := by
  simp [AlertWorld.isFired]

theorem AlertPhase.Known.other (known : phase.Known w)
    (more : ∀ id ∈ w.sent, id ∈ w'.sent) : phase.Known w' := by
  cases phase with
  | sending seen alerts => exact fun id member => (known id member).imp_left (more id)
  | ended seen => exact fun id member => more id (known id member)
  | markingCustomers month alerts => exact known
  | _ => trivial

theorem AlertInvariant.idle (invariant : AlertInvariant s) (own : next.Known s.world) :
    AlertInvariant ⟨s.world, s.calls.set k (check, next)⟩ :=
  ⟨invariant.once, .set own fun _ _ _ _ there => invariant.calls.at there⟩

theorem AlertInvariant.send (invariant : AlertInvariant s) (once : w.Once)
    (more : ∀ id ∈ s.world.sent, id ∈ w.sent) (own : next.Known w) :
    AlertInvariant ⟨w, s.calls.set k (check, next)⟩ :=
  ⟨once, .set own fun _ _ _ _ there => (invariant.calls.at there).other more⟩

/-! ## One statement -/

/-- What the loop dispatches is new, and what it skips was dispatched. -/
theorem AlertWorld.Once.mark (once : w.Once) (agrees : w.Agrees entry alerts)
    (distinct : ∀ a a', (entry a).1 = (entry a').1 ↔ (entry a).2 = (entry a').2)
    (faithful : ∀ a, Faithful (entry a)) :
    (w.mark entry alerts (w.unmarked entry alerts)).Once ∧
      ∀ a ∈ alerts, (entry a).2 ∈ (w.mark entry alerts (w.unmarked entry alerts)).sent := by
  have among : ∀ a ∈ w.unmarked entry alerts, a ∈ alerts := fun _ => mem_of_mem_firsts
  obtain ⟨keys, unseen⟩ : ((w.unmarked entry alerts).map fun a => (entry a).1).Nodup ∧
      ∀ a ∈ w.unmarked entry alerts, w.isFired (entry a).1 = false := firsts_fresh
  have ids : ((w.unmarked entry alerts).map fun a => (entry a).2).Nodup := by
    refine (List.Nodup.of_map _ keys).map_on fun a member a' member' same => ?_
    exact List.inj_on_of_nodup_map keys member member' ((distinct a a').mpr same)
  refine ⟨⟨?_, fun id => ?_, fun f member => ?_⟩, fun a member => ?_⟩
  · refine List.nodup_append.mpr ⟨ids, once.nodup, fun id new id' old same => ?_⟩
    obtain ⟨a, member, rfl⟩ := List.mem_map.mp new
    obtain ⟨f, fired, its⟩ := (once.sent_iff id').mp old
    have before := isFired_iff.mpr ⟨f, fired,
      (agrees a (among a member) f fired).mpr (its.trans same.symm)⟩
    rw [unseen a member] at before
    cases before
  · simp only [AlertWorld.mark, List.mem_append, List.mem_map, once.sent_iff]
    constructor
    · rintro (⟨a, new, rfl⟩ | ⟨f, old, rfl⟩)
      · exact ⟨entry a, Or.inl ⟨a, new, rfl⟩, rfl⟩
      · exact ⟨f, Or.inr old, rfl⟩
    · rintro ⟨f, ⟨a, new, rfl⟩ | old, rfl⟩
      · exact Or.inl ⟨a, new, rfl⟩
      · exact Or.inr ⟨f, old, rfl⟩
  · obtain new | old := List.mem_append.mp member
    · obtain ⟨a, _, rfl⟩ := List.mem_map.mp new
      exact faithful a
    · exact once.faithful f old
  · obtain before | ⟨first, new, same⟩ : w.isFired (entry a).1 = true ∨
        ∃ first ∈ w.unmarked entry alerts, (entry first).1 = (entry a).1 :=
      @firsts_covers _ _ _ (fun a => (entry a).1) _ _ _ member
    · obtain ⟨f, fired, its⟩ := isFired_iff.mp before
      apply List.mem_append_right
      exact (once.sent_iff _).mpr ⟨f, fired, (agrees a member f fired).mp its⟩
    · apply List.mem_append_left
      exact List.mem_map.mpr ⟨first, new, (distinct first a).mp same⟩

theorem mark_more {delivered : List α} (id : AlertId) (sent : id ∈ w.sent) :
    id ∈ (w.mark entry alerts delivered).sent :=
  List.mem_append_right _ sent

theorem keyEntry_distinct (date day : Int) (a a' : KeyBudgetAlert) :
    (a.entry date day).1 = (a'.entry date day).1 ↔
      (a.entry date day).2 = (a'.entry date day).2 := by
  simp [KeyBudgetAlert.entry]

theorem customerEntry_distinct (month : Time) (a a' : CustomerBudgetAlert) :
    (a.entry month).1 = (a'.entry month).1 ↔ (a.entry month).2 = (a'.entry month).2 := by
  simp [CustomerBudgetAlert.entry]

theorem deliverKeys_all {new : List KeyBudgetAlert}
    (prints : config.terminal = true → ∀ a ∈ new, w.printsKey config a = true) :
    w.deliverKeys config new = new := by
  apply if_neg
  rintro ⟨terminal, refused⟩
  exact refused (List.all_eq_true.mpr (prints terminal))

/-- What goes out is what is new, when the terminal shows nothing again. -/
theorem deliverCustomers_new {month : Time} {alerts : List CustomerBudgetAlert}
    (distinct : (alerts.map CustomerBudgetAlert.customer).Nodup)
    (shows : config.terminal = true → ∀ a ∈ alerts,
      w.isFired (a.entry month).1 = false ∧ config.printsCustomer a = true) :
    w.deliverCustomers config month alerts =
      w.unmarked (CustomerBudgetAlert.entry month) alerts := by
  rw [AlertWorld.deliverCustomers]
  split
  · next terminal =>
    have keys : (alerts.map fun a => (a.entry month).1).Nodup := by
      refine (List.Nodup.of_map _ distinct).map_on fun a member a' member' same => ?_
      simp only [CustomerBudgetAlert.entry, FiredKey.customer.injEq] at same
      exact List.inj_on_of_nodup_map distinct member member' same.1
    have new : w.unmarked (CustomerBudgetAlert.entry month) alerts = alerts :=
      firsts_of_nodup keys fun a member => (shows terminal a member).1
    rw [new, List.takeWhile_eq_self_iff]
    exact fun a member => (shows terminal a member).2
  · rfl

theorem customerAlert_customer {budgets : CustomerBudgetsConfig} {customer : Str} {spent : Usd}
    {a : CustomerBudgetAlert} (raised : customerAlert budgets customer spent = some a) :
    a.customer = customer := by
  simp only [customerAlert] at raised
  split at raised
  · cases raised
  · split at raised
    · cases raised
    · split at raised
      · cases raised
        rfl
      · cases (Option.ite_none_right_eq_some.mp raised).2
        rfl

theorem checkCustomerBudgets_distinct (budgets : CustomerBudgetsConfig) (now : Time)
    (ledger : List LedgerRow) :
    ((checkCustomerBudgets budgets now ledger).map CustomerBudgetAlert.customer).Nodup := by
  rw [checkCustomerBudgets]
  split
  · exact List.nodup_nil
  · have groups : ((getSpendByCustomerThisMonth now ledger).map Prod.fst).Nodup :=
      nodup_groupSum ..
    refine List.pairwise_map.mpr (List.pairwise_filterMap.mpr
      ((List.pairwise_map.mp groups).imp fun apart a raised a' raised' => ?_))
    rw [customerAlert_customer raised, customerAlert_customer raised']
    exact apart

theorem AlertWorld.Once.send {a : BudgetAlert} (once : w.Once) (new : w.isFired a.key = false) :
    AlertWorld.Once { w with fired := (a.key, a.id) :: w.fired, sent := a.id :: w.sent } := by
  have own : Faithful (a.key, a.id) := by
    intro period threshold start
    simp [BudgetAlert.key, BudgetAlert.id]
  refine ⟨List.nodup_cons.mpr ⟨fun sent => ?_, once.nodup⟩, fun id => ?_, fun f member => ?_⟩
  · obtain ⟨f, fired, its⟩ := (once.sent_iff a.id).mp sent
    have before : w.isFired a.key = true :=
      isFired_iff.mpr ⟨f, fired, (once.faithful f fired _ _ _).mpr its⟩
    rw [new] at before
    cases before
  · simp only [List.mem_cons, once.sent_iff]
    constructor
    · rintro (rfl | ⟨f, old, rfl⟩)
      · exact ⟨(a.key, a.id), Or.inl rfl, rfl⟩
      · exact ⟨f, Or.inr old, rfl⟩
    · rintro ⟨f, rfl | old, rfl⟩
      · exact Or.inl rfl
      · exact Or.inr ⟨f, old, rfl⟩
  · obtain rfl | old := List.mem_cons.mp member
    · exact own
    · exact once.faithful f old

theorem AlertInvariant.advance (invariant : AlertInvariant s)
    (found : s.calls[k]? = some (check, phase)) (sound : phase.Sound config s.world)
    (went : s.world.check config check phase = some (w, next)) :
    AlertInvariant ⟨w, s.calls.set k (check, next)⟩ := by
  have known := invariant.calls.at found
  cases phase with
  | starting =>
    cases went
    apply invariant.idle
    cases check with
    | budgets => trivial
    | keyBudgets =>
      simp only
      split
      · trivial
      · exact fun id none => by cases none
    | customerBudgets =>
      simp only
      split
      · exact checkCustomerBudgets_distinct ..
      · exact fun id none => by cases none
  | querying now budgets alerts =>
    cases budgets with
    | nil =>
      cases went
      apply invariant.idle
      intro id member
      obtain ⟨a, there, rfl⟩ := List.mem_map.mp member
      cases fired : s.world.isFired a.key with
      | true =>
        obtain ⟨f, old, its⟩ := isFired_iff.mp fired
        left
        rw [invariant.once.sent_iff]
        exact ⟨f, old, (invariant.once.faithful f old _ _ _).mp its⟩
      | false => exact Or.inr ⟨a, List.mem_filter.mpr ⟨there, by simp [fired]⟩, rfl⟩
    | cons entry budgets =>
      obtain ⟨period, budgetUsd⟩ := entry
      cases went
      apply invariant.idle
      split
      · trivial
      · rename_i readable
        split
        · trivial
        · rename_i spent
          rw [if_neg (sound (by simpa using readable) spent)]
          trivial
  | sending seen alerts =>
    cases alerts with
    | nil =>
      cases went
      apply invariant.idle
      intro id member
      refine (known id member).resolve_right ?_
      rintro ⟨a, none, _⟩
      cases none
    | cons a alerts =>
      cases went
      refine invariant.send (invariant.once.send sound) (fun id => List.mem_cons_of_mem _) ?_
      intro id member
      obtain sent | ⟨a', there, rfl⟩ := known id member
      · exact Or.inl (List.mem_cons_of_mem _ sent)
      · obtain rfl | later := List.mem_cons.mp there
        · exact Or.inl (List.mem_cons_self ..)
        · exact Or.inr ⟨a', later, rfl⟩
  | markingKeys day alerts =>
    obtain ⟨agrees, prints⟩ := sound
    simp only [AlertWorld.check, deliverKeys_all prints] at went
    split at went
    · cases went
      obtain ⟨once, covered⟩ := invariant.once.mark agrees (keyEntry_distinct _ day)
        fun a => by simp [Faithful, KeyBudgetAlert.entry]
      refine invariant.send once mark_more fun id member => ?_
      obtain ⟨a, there, rfl⟩ := List.mem_map.mp member
      exact covered a there
    · cases went
      exact invariant.idle fun id none => by cases none
  | markingCustomers month alerts =>
    obtain ⟨agrees, shows⟩ := sound
    simp only [AlertWorld.check, deliverCustomers_new known shows] at went
    cases went
    obtain ⟨once, covered⟩ := invariant.once.mark agrees (customerEntry_distinct month)
      fun a => by simp [Faithful, CustomerBudgetAlert.entry]
    refine invariant.send once mark_more fun id member => ?_
    obtain ⟨a, there, rfl⟩ := List.mem_map.mp member
    exact covered a there
  | ended seen => cases went

/-! ## Runs -/

theorem alertInvariant_preserved :
    (alertMachine config).Preserves (dispatchesSoundly config) AlertInvariant := by
  apply Routes.preserves
  · intro s k check phase w next invariant found sound went
    exact invariant.advance found sound went
  · intro s event invariant _
    have same : (s.world.happen event).sent = s.world.sent ∧
        (s.world.happen event).fired = s.world.fired := by
      cases event <;> exact ⟨rfl, rfl⟩
    obtain ⟨nodup, sent_iff, faithful⟩ := invariant.once
    refine ⟨⟨?_, ?_, ?_⟩, fun check phase member => ?_⟩
    · show (s.world.happen event).sent.Nodup
      rwa [same.1]
    · show ∀ id, id ∈ (s.world.happen event).sent ↔ ∃ f ∈ (s.world.happen event).fired, f.2 = id
      rwa [same.1, same.2]
    · show ∀ f ∈ (s.world.happen event).fired, Faithful f
      rwa [same.2]
    · refine (invariant.calls check phase member).other fun id sent => ?_
      show id ∈ (s.world.happen event).sent
      rwa [same.1]

/-- An engine that has fired nothing, and checks that have not begun. -/
structure AlertState.Fresh (s : AlertState) : Prop where
  fired : s.world.fired = []
  sent : s.world.sent = []
  starting : ∀ check phase, (check, phase) ∈ s.calls → phase = .starting

theorem AlertInvariant.fresh (fresh : s.Fresh) : AlertInvariant s := by
  refine ⟨⟨?_, ?_, ?_⟩, fun check phase member => ?_⟩
  · simp [fresh.sent]
  · simp [fresh.sent, fresh.fired]
  · simp [fresh.fired]
  · cases fresh.starting check phase member
    trivial

theorem AlertInvariant.alertsOnce (invariant : AlertInvariant s) : AlertsOnce s :=
  ⟨invariant.once.nodup, fun check _ member => invariant.calls check _ member⟩

/-- Alerts go out once per period in every run in which no budget of zero is divided by, no
    alert on a period is sent that another check has marked meanwhile, what is remembered of a key
    or a customer is of the period of the alert, and the terminal takes every line and shows no
    alert on a customer again: no alert is dispatched twice, and none that a check has seen is left
    out. -/
theorem alerts_fire_once (config : EngineConfig) (s s' : AlertState) (labels : List AlertLabel)
    (fresh : s.Fresh) (sound : (alertMachine config).Guarded (dispatchesSoundly config) s labels)
    (ran : (alertMachine config).run s labels = some s') : AlertsOnce s' :=
  (alertInvariant_preserved.run _ (.fresh fresh) sound ran).alertsOnce

/-! ## Two checks at once -/

def utcZone : Zone := ⟨fun t => (t, false), Prod.fst⟩

def tenDaily : EngineConfig where
  budget := { dailyUsd := some 10 }
  zone := utcZone

/-- Two requests have ended, the second at 85% of the daily budget. -/
def twoChecks : AlertState where
  world := {
    now := 1710504000000000
    rows := [{
      timestamp := 1710504000000000
      model := "gpt-4o"
      costUsd := 17 / 2
      orgId := none
      team := none
      appId := none
      customerHash := none
      tags := fun _ => none }] }
  calls := [(.budgets, .starting), (.budgets, .starting)]

theorem twoChecks_fresh : twoChecks.Fresh := by
  refine ⟨rfl, rfl, fun check phase member => ?_⟩
  simp only [twoChecks, List.mem_cons, Prod.mk.injEq, List.not_mem_nil, or_false, or_self] at member
  exact member.2

def checkInTurn (k : Nat) : List AlertLabel := List.replicate 3 (.advance k)

def sendInTurn (k : Nat) : List AlertLabel := List.replicate 2 (.advance k)

theorem alerts_fire_once_in_turn : AlertsOnce (((alertMachine tenDaily).run twoChecks
    (checkInTurn 0 ++ sendInTurn 0 ++ checkInTurn 1)).get (by decide +kernel)) :=
  alerts_fire_once tenDaily twoChecks _ _ twoChecks_fresh (by decide +kernel)
    (Option.some_get _).symm

/-- Two checks send one alert, each having looked for it before the other has marked it. -/
theorem alert_sent_twice :
    ¬ ∀ (config : EngineConfig) (s s' : AlertState) (labels : List AlertLabel), s.Fresh →
      (alertMachine config).run s labels = some s' → AlertsOnce s' := by
  intro claim
  have outcome : ((alertMachine tenDaily).run twoChecks
      (checkInTurn 0 ++ checkInTurn 1 ++ sendInTurn 0 ++ sendInTurn 1)).any fun s' =>
        decide (¬ s'.world.sent.Nodup) := by
    decide +kernel
  obtain ⟨s', ran, twice⟩ := (Option.any_eq_true _ _).mp outcome
  exact of_decide_eq_true twice (claim tenDaily twoChecks s' _ twoChecks_fresh ran).atMostOnce

end

end BurnLens.Alerts
