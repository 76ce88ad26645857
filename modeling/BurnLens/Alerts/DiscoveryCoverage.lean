import BurnLens.Alerts.Discovery

/-! # Coverage of discovered assets

The mark of the last check moves to the time at which a run of the checks ends.  Every event behind
it has been handled in every run in which no event is committed behind it, in none is one left
between a query and the mark, and no call about an event fails.  An event that is left behind the
mark is lost for good.
-/

namespace BurnLens.Alerts

open Library Storage

section

variable {newestFirst : NewestFirst} {s s' start : DiscoveryState} {check : DiscoveryCheck}
  {event other : DiscoveryEvent} {label : DiscoveryLabel}

/-- An event of a check, detected since the engine was started, whose asset exists. -/
def Alertable (s : DiscoveryState) (event : DiscoveryEvent) : Prop :=
  (event.eventType = .newAssetDetected ∨ event.eventType = .providerChanged) ∧
    s.started ≤ event.detectedAt ∧ s.hasAsset event = true

/-- An alert for the asset and the type was dispatched at the time, if not by an engine before. -/
def Alerted (start s : DiscoveryState) (check : DiscoveryCheck) (assetId : Option Nat)
    (sent : Time) : Prop :=
  start.fired check assetId = some sent ∨
    ∃ event, ⟨check, event, sent⟩ ∈ s.dispatched ∧ event.assetId = assetId

/-- Dispatched, or suppressed within the window after an alert for the asset and the type. -/
def Handled (start s : DiscoveryState) (event : DiscoveryEvent) : Prop :=
  ∃ check : DiscoveryCheck, event.eventType = check.eventType ∧
    ((∃ sent, ⟨check, event, sent⟩ ∈ s.dispatched) ∨
      ∃ its ∈ s.suppressed, its.check = check ∧ its.event = event ∧
        its.asked ≤ its.firedAt + check.window ∧
        Alerted start s check event.assetId its.firedAt)

/-! ## Runs in which no event is missed -/

/-- The events that the engine has still to handle. -/
def DiscoveryPhase.pending : DiscoveryPhase → List DiscoveryEvent
  | .wasFired _ event rest _ | .asset _ event rest | .dispatch _ event rest => event :: rest
  | .markFired _ _ rest _ => rest
  | _ => []

/-- The events of a check that is at a call about the first of them, whose failure ends it. -/
def DiscoveryPhase.atStake : DiscoveryPhase → List DiscoveryEvent
  | .asset _ event rest | .dispatch _ event rest => event :: rest
  | _ => []

/-- What the mark is about to pass has been read by the queries of the run. -/
def DiscoveryState.AllRead (s : DiscoveryState) : Prop :=
  ∀ event ∈ s.events, Alertable s event → s.lastCheck ≤ event.detectedAt →
    event.detectedAt < s.now → event ∈ s.read

/-- No event is committed behind the mark, the run has read what it passes, and no call about an
    event fails. -/
def Timely (s : DiscoveryState) : DiscoveryLabel → Prop
  | .insertEvent _ _ detectedAt => s.started ≤ detectedAt → s.lastCheck ≤ detectedAt
  | .returns => s.phase = .spikes → s.AllRead
  | .raises => (s.phase = .spikes → s.AllRead) ∧
    ∀ pending ∈ s.phase.atStake, s.hasAsset pending = false
  | _ => True

instance (s : DiscoveryState) (event : DiscoveryEvent) : Decidable (Alertable s event) :=
  inferInstanceAs (Decidable (_ ∧ _))

instance (s : DiscoveryState) : Decidable s.AllRead :=
  inferInstanceAs (Decidable (∀ event ∈ s.events, Alertable s event →
    s.lastCheck ≤ event.detectedAt → event.detectedAt < s.now → event ∈ s.read))

instance decidableTimely (s : DiscoveryState) : (label : DiscoveryLabel) → Decidable (Timely s label)
  | .tick _ | .insertAsset _ | .runAllChecks => isTrue trivial
  | .insertEvent _ _ detectedAt =>
    inferInstanceAs (Decidable (s.started ≤ detectedAt → s.lastCheck ≤ detectedAt))
  | .returns => inferInstanceAs (Decidable (s.phase = .spikes → s.AllRead))
  | .raises => inferInstanceAs (Decidable (_ ∧ _))

/-- The events that a check works on are of its type, and it marks what it has dispatched. -/
def DiscoveryPhase.Typed (dispatched : List Dispatch) : DiscoveryPhase → Prop
  | .wasFired check event rest _ | .asset check event rest | .dispatch check event rest =>
    ∀ pending ∈ event :: rest, pending.eventType = check.eventType
  | .markFired check event rest sent =>
    ⟨check, event, sent⟩ ∈ dispatched ∧ ∀ pending ∈ rest, pending.eventType = check.eventType
  | _ => True

structure Covered (start s : DiscoveryState) : Prop where
  fired : ∀ check assetId firedAt, s.fired check assetId = some firedAt →
    Alerted start s check assetId firedAt
  typed : s.phase.Typed s.dispatched
  known : s.read ⊆ s.events
  read : ∀ event ∈ s.read, s.hasAsset event = true →
    Handled start s event ∨ event ∈ s.phase.pending
  behind : ∀ event ∈ s.events, Alertable s event → event.detectedAt < s.lastCheck →
    Handled start s event

theorem Alerted.mono {assetId : Option Nat} {firedAt : Time}
    (alerted : Alerted start s check assetId firedAt) (more : s.dispatched ⊆ s'.dispatched) :
    Alerted start s' check assetId firedAt := by
  obtain before | ⟨event, dispatched, same⟩ := alerted
  · exact Or.inl before
  · exact Or.inr ⟨event, more dispatched, same⟩

theorem Handled.mono (handled : Handled start s event) (dispatched : s.dispatched ⊆ s'.dispatched)
    (suppressed : s.suppressed ⊆ s'.suppressed) : Handled start s' event := by
  obtain ⟨check, type, sent | ⟨its, member, same, of, within, alerted⟩⟩ := handled
  · obtain ⟨time, sent⟩ := sent
    exact ⟨check, type, Or.inl ⟨time, dispatched sent⟩⟩
  · exact ⟨check, type, Or.inr ⟨its, suppressed member, same, of, within, alerted.mono dispatched⟩⟩

@[simp] theorem pending_ended : check.ended.pending = [] := by cases check <;> rfl

@[simp] theorem pending_next (now : Time) (rest : List DiscoveryEvent) :
    (check.next now rest).pending = rest := by
  cases rest with
  | nil => exact pending_ended
  | cons event rest => rfl

theorem typed_ended (dispatched : List Dispatch) :
    check.ended.Typed dispatched := by
  cases check <;> trivial

theorem typed_next {rest : List DiscoveryEvent} (now : Time) (dispatched : List Dispatch)
    (typed : ∀ pending ∈ rest, pending.eventType = check.eventType) :
    (check.next now rest).Typed dispatched := by
  cases rest with
  | nil => exact typed_ended dispatched
  | cons event rest => exact typed

/-! ## Steps -/

theorem Covered.advance (covered : Covered start s) {phase : DiscoveryPhase}
    {dispatched : List Dispatch} {suppressed : List Suppression}
    (sent : s.dispatched ⊆ dispatched) (more : s.suppressed ⊆ suppressed)
    (typed : phase.Typed dispatched)
    (pending : ∀ event ∈ s.phase.pending, s.hasAsset event = true → event ∈ phase.pending ∨
      Handled start { s with phase, dispatched, suppressed } event) :
    Covered start { s with phase, dispatched, suppressed } where
  fired check assetId firedAt fired := (covered.fired check assetId firedAt fired).mono sent
  typed := typed
  known := covered.known
  read event member asset := by
    obtain handled | before := covered.read event member asset
    · exact Or.inl (handled.mono sent more)
    · exact (pending event before asset).symm
  behind event member alertable passed :=
    (covered.behind event member alertable passed).mono sent more

theorem Covered.markAlertFired (covered : Covered start s) {sent : Time}
    (dispatched : ⟨check, event, sent⟩ ∈ s.dispatched) :
    Covered start (s.markAlertFired check event sent) where
  fired other assetId firedAt fired := by
    simp only [DiscoveryState.markAlertFired] at fired
    split at fired
    · next same =>
      obtain ⟨rfl, rfl⟩ := same
      cases fired
      exact Or.inr ⟨event, dispatched, rfl⟩
    · exact covered.fired other assetId firedAt fired
  typed := covered.typed
  known := covered.known
  read := covered.read
  behind := covered.behind

theorem Covered.readEvents (covered : Covered start s) (waits : s.phase = .events check) :
    let events := newEventsSince newestFirst check s.lastCheck s.events
    Covered start { s with read := s.read ++ events, phase := check.next s.now events } := by
  intro events
  refine ⟨covered.fired, typed_next _ _ fun event member => ?_, List.append_subset.mpr ⟨covered.known,
    fun event member => ?_⟩, fun event member asset => ?_, covered.behind⟩
  · exact (mem_newEventsSince.mp member).2.1
  · exact (mem_newEventsSince.mp member).1
  · obtain before | now := List.mem_append.mp member
    · obtain handled | pending := covered.read event before asset
      · exact Or.inl handled
      · rw [waits] at pending
        cases pending
    · exact Or.inr ((pending_next s.now events).symm ▸ now)

theorem Covered.finish (covered : Covered start s) (waits : s.phase = .spikes)
    (allRead : s.AllRead) : Covered start s.finish where
  fired := covered.fired
  typed := trivial
  known := covered.known
  read event member asset := by
    have before := covered.read event member asset
    rw [waits] at before
    exact before
  behind event member alertable passed := by
    by_cases earlier : event.detectedAt < s.lastCheck
    · exact covered.behind event member alertable earlier
    · have read := allRead event member alertable (not_lt.mp earlier) passed
      obtain handled | pending := covered.read event read alertable.2.2
      · exact handled
      · rw [waits] at pending
        cases pending

theorem Covered.returns (covered : Covered start s) (timely : Timely s .returns)
    (returned : s.returns newestFirst = some s') : Covered start s' := by
  have typed := covered.typed
  unfold DiscoveryState.returns at returned
  cases waits : s.phase with
  | idle =>
    rw [waits] at returned
    cases returned
  | events check =>
    rw [waits] at returned
    cases returned
    exact covered.readEvents waits
  | wasFired check event rest asked =>
    rw [waits] at returned typed
    simp only at returned
    split at returned
    · next firedAt was =>
      cases returned
      obtain ⟨fired, within⟩ := Option.filter_eq_some_iff.mp was
      apply covered.advance (List.Subset.refl _) (List.subset_cons_self _ _)
      · exact typed_next _ _ fun pending member => typed pending (List.mem_cons_of_mem _ member)
      · intro other pending asset
        rw [waits] at pending
        obtain rfl | later := List.mem_cons.mp pending
        · refine Or.inr ⟨check, typed other List.mem_cons_self, Or.inr
            ⟨_, List.mem_cons_self, rfl, rfl, sub_le_iff_le_add.mp (by simpa using within), ?_⟩⟩
          exact covered.fired check other.assetId firedAt fired
        · exact Or.inl ((pending_next s.now rest).symm ▸ later)
    · cases returned
      have typed : (DiscoveryPhase.asset check event rest).Typed s.dispatched := typed
      apply covered.advance (List.Subset.refl _) (List.Subset.refl _) typed
      intro other pending _
      rw [waits] at pending
      exact Or.inl pending
  | asset check event rest =>
    rw [waits] at returned typed
    cases returned
    apply covered.advance (List.Subset.refl _) (List.Subset.refl _)
    · split
      · exact typed
      · exact typed_next _ _ fun pending member => typed pending (List.mem_cons_of_mem _ member)
    · intro other pending asset
      rw [waits] at pending
      split
      · exact Or.inl pending
      · next missing =>
        obtain rfl | later := List.mem_cons.mp pending
        · exact absurd asset missing
        · exact Or.inl ((pending_next s.now rest).symm ▸ later)
  | dispatch check event rest =>
    rw [waits] at returned typed
    cases returned
    apply covered.advance (List.subset_cons_self _ _) (List.Subset.refl _)
    · exact ⟨List.mem_cons_self, fun pending member => typed pending (List.mem_cons_of_mem _ member)⟩
    · intro other pending _
      rw [waits] at pending
      obtain rfl | later := List.mem_cons.mp pending
      · exact Or.inr ⟨check, typed other List.mem_cons_self, Or.inl ⟨s.now, List.mem_cons_self⟩⟩
      · exact Or.inl later
  | markFired check event rest sent =>
    rw [waits] at returned typed
    cases returned
    have marked := covered.markAlertFired typed.1
    apply marked.advance (List.Subset.refl _) (List.Subset.refl _) (typed_next _ _ typed.2)
    intro other pending _
    have waits' : (s.markAlertFired check event sent).phase = .markFired check event rest sent := waits
    rw [waits'] at pending
    exact Or.inl ((pending_next s.now rest).symm ▸ pending)
  | spikes =>
    rw [waits] at returned
    cases returned
    exact covered.finish waits (timely waits)

theorem Covered.raises (covered : Covered start s) (timely : Timely s .raises)
    (raised : s.raises = some s') : Covered start s' := by
  have typed := covered.typed
  unfold DiscoveryState.raises at raised
  cases waits : s.phase with
  | idle =>
    rw [waits] at raised
    cases raised
  | events check =>
    rw [waits] at raised
    cases raised
    apply covered.advance (List.Subset.refl _) (List.Subset.refl _) (typed_ended _)
    intro other pending _
    rw [waits] at pending
    cases pending
  | wasFired check event rest asked =>
    rw [waits] at raised typed
    cases raised
    have typed : (DiscoveryPhase.asset check event rest).Typed s.dispatched := typed
    apply covered.advance (List.Subset.refl _) (List.Subset.refl _) typed
    intro other pending _
    rw [waits] at pending
    exact Or.inl pending
  | asset check event rest =>
    rw [waits] at raised
    cases raised
    apply covered.advance (List.Subset.refl _) (List.Subset.refl _) (typed_ended _)
    intro other pending asset
    rw [timely.2 other (by rw [waits] at pending ⊢; exact pending)] at asset
    cases asset
  | dispatch check event rest =>
    rw [waits] at raised
    cases raised
    apply covered.advance (List.Subset.refl _) (List.Subset.refl _) (typed_ended _)
    intro other pending asset
    rw [timely.2 other (by rw [waits] at pending ⊢; exact pending)] at asset
    cases asset
  | markFired check event rest sent =>
    rw [waits] at raised typed
    cases raised
    apply covered.advance (List.Subset.refl _) (List.Subset.refl _) (typed_next _ _ typed.2)
    intro other pending _
    rw [waits] at pending
    exact Or.inl ((pending_next s.now rest).symm ▸ pending)
  | spikes =>
    rw [waits] at raised
    cases raised
    exact covered.finish waits (timely.1 waits)

theorem covered_step :
    (discoveryAlerts newestFirst).Preserves Timely (Covered start) := by
  intro s label s' covered timely stepped
  cases label with
  | tick now =>
    obtain ⟨_, stepped⟩ := Option.ite_none_right_eq_some.mp stepped
    cases stepped
    exact ⟨covered.fired, covered.typed, covered.known, covered.read, covered.behind⟩
  | insertAsset id =>
    obtain ⟨new, stepped⟩ := Option.ite_none_left_eq_some.mp stepped
    cases stepped
    have same : ∀ event ∈ s.events,
        ({ s with assets := id :: s.assets }).hasAsset event = s.hasAsset event := by
      intro event member
      cases its : event.assetId with
      | none => simp [DiscoveryState.hasAsset, its]
      | some asset =>
        have other : asset ≠ id := by
          rintro rfl
          exact new (List.any_eq_true.mpr ⟨event, member, by simp [its]⟩)
        simp [DiscoveryState.hasAsset, its, other]
    refine ⟨covered.fired, covered.typed, covered.known, fun event member asset => ?_,
      fun event member alertable passed => ?_⟩
    · rw [same event (covered.known member)] at asset
      exact covered.read event member asset
    · obtain ⟨type, since, asset⟩ := alertable
      rw [same event member] at asset
      exact covered.behind event member ⟨type, since, asset⟩ passed
  | insertEvent eventType assetId detectedAt =>
    obtain ⟨_, stepped⟩ := Option.ite_none_right_eq_some.mp stepped
    cases stepped
    refine ⟨covered.fired, covered.typed, List.subset_append_of_subset_left _ covered.known,
      covered.read, fun event member alertable passed => ?_⟩
    obtain old | new := List.mem_append.mp member
    · exact covered.behind event old alertable passed
    · cases List.mem_singleton.mp new
      have ahead : s.lastCheck ≤ detectedAt := timely alertable.2.1
      exact absurd passed (not_lt.mpr ahead)
  | runAllChecks =>
    simp only [discoveryAlerts] at stepped
    split at stepped
    · cases stepped
      exact ⟨covered.fired, trivial, List.nil_subset _,
        fun _ member => absurd member List.not_mem_nil, covered.behind⟩
    · cases stepped
  | returns => exact covered.returns timely stepped
  | raises => exact covered.raises timely stepped

/-- The engine as it is constructed. -/
structure DiscoveryState.Fresh (s : DiscoveryState) : Prop where
  phase : s.phase = .idle
  lastCheck : s.lastCheck = s.started
  read : s.read = []

theorem covered_fresh (fresh : start.Fresh) : Covered start start := by
  refine ⟨fun _ _ _ fired => Or.inl fired, ?_, ?_, ?_, ?_⟩
  · rw [fresh.phase]
    trivial
  · rw [fresh.read]
    exact List.nil_subset _
  · rw [fresh.read]
    exact fun _ member => absurd member List.not_mem_nil
  · intro event _ alertable passed
    rw [fresh.lastCheck] at passed
    exact absurd passed (not_lt.mpr alertable.2.1)

/-- Discovery alerts lose no event, in every timely run: what the mark has passed has been
    dispatched, or suppressed for another alert within the window. -/
theorem discovery_alerts_complete {labels : List DiscoveryLabel} (fresh : start.Fresh)
    (ran : (discoveryAlerts newestFirst).run start labels = some s)
    (timely : (discoveryAlerts newestFirst).Guarded Timely start labels) :
    ∀ event ∈ s.events, Alertable s event → event.detectedAt < s.lastCheck →
      Handled start s event :=
  (covered_step.run _ (covered_fresh fresh) timely ran).behind

/-! ## What is lost -/

/-- The mark has passed the event, which is not being handled. -/
structure Lost (event : DiscoveryEvent) (s : DiscoveryState) : Prop where
  passed : event.detectedAt < s.lastCheck
  clock : s.lastCheck ≤ s.now
  pending : event ∉ s.phase.pending
  dispatched : ∀ alert ∈ s.dispatched, alert.event ≠ event
  suppressed : ∀ its ∈ s.suppressed, its.event ≠ event

theorem Lost.not_handled (lost : Lost event s) : ¬ Handled start s event := by
  rintro ⟨check, _, ⟨time, sent⟩ | ⟨its, member, _, same, _⟩⟩
  · exact lost.dispatched _ sent rfl
  · exact lost.suppressed its member same

theorem Lost.finish (lost : Lost event s) : Lost event s.finish where
  passed := lt_of_lt_of_le lost.passed lost.clock
  clock := le_refl _
  pending := List.not_mem_nil
  dispatched := lost.dispatched
  suppressed := lost.suppressed

theorem Lost.advance (lost : Lost event s) {phase : DiscoveryPhase}
    (fewer : phase.pending ⊆ s.phase.pending) : Lost event { s with phase } where
  passed := lost.passed
  clock := lost.clock
  pending member := lost.pending (fewer member)
  dispatched := lost.dispatched
  suppressed := lost.suppressed

theorem Lost.returns (lost : Lost event s) (returned : s.returns newestFirst = some s') :
    Lost event s' := by
  unfold DiscoveryState.returns at returned
  have pending := lost.pending
  cases waits : s.phase with
  | idle =>
    rw [waits] at returned
    cases returned
  | events check =>
    rw [waits] at returned
    cases returned
    refine ⟨lost.passed, lost.clock, ?_, lost.dispatched, lost.suppressed⟩
    rw [pending_next, mem_newEventsSince]
    exact fun found => absurd found.2.2 (not_le.mpr lost.passed)
  | wasFired check other rest asked =>
    rw [waits] at returned pending
    simp only at returned
    split at returned
    · cases returned
      refine ⟨lost.passed, lost.clock, ?_, lost.dispatched, ?_⟩
      · rw [pending_next]
        exact List.not_mem_of_not_mem_cons pending
      intro its member
      obtain rfl | before := List.mem_cons.mp member
      · exact (List.ne_of_not_mem_cons pending).symm
      · exact lost.suppressed its before
    · cases returned
      apply lost.advance
      rw [waits]
      exact List.Subset.refl _
  | asset check other rest =>
    rw [waits] at returned
    cases returned
    apply lost.advance
    rw [waits]
    split
    · exact List.Subset.refl _
    · rw [pending_next]
      exact List.subset_cons_self _ _
  | dispatch check other rest =>
    rw [waits] at returned pending
    cases returned
    refine ⟨lost.passed, lost.clock, List.not_mem_of_not_mem_cons pending, fun alert member => ?_,
      lost.suppressed⟩
    obtain rfl | before := List.mem_cons.mp member
    · exact (List.ne_of_not_mem_cons pending).symm
    · exact lost.dispatched alert before
  | markFired check other rest sent =>
    rw [waits] at returned pending
    cases returned
    exact ⟨lost.passed, lost.clock, by rwa [pending_next], lost.dispatched, lost.suppressed⟩
  | spikes =>
    rw [waits] at returned
    cases returned
    exact lost.finish

theorem Lost.raises (lost : Lost event s) (raised : s.raises = some s') : Lost event s' := by
  unfold DiscoveryState.raises at raised
  cases waits : s.phase with
  | idle =>
    rw [waits] at raised
    cases raised
  | events check | asset check other rest | dispatch check other rest =>
    rw [waits] at raised
    cases raised
    apply lost.advance
    rw [pending_ended]
    exact List.nil_subset _
  | wasFired check other rest asked =>
    rw [waits] at raised
    cases raised
    apply lost.advance
    rw [waits]
    exact List.Subset.refl _
  | markFired check other rest sent =>
    rw [waits] at raised
    cases raised
    apply lost.advance
    rw [waits, pending_next]
    exact List.Subset.refl _
  | spikes =>
    rw [waits] at raised
    cases raised
    exact lost.finish

/-- An event that is left behind the mark stays so, in every continuation. -/
theorem lost_for_good {labels : List DiscoveryLabel} (lost : Lost event s)
    (ran : (discoveryAlerts newestFirst).run s labels = some s') : Lost event s' := by
  apply Machine.run_invariant _ _ lost ran
  intro s label s' lost stepped
  cases label with
  | tick now =>
    obtain ⟨later, stepped⟩ := Option.ite_none_right_eq_some.mp stepped
    cases stepped
    exact ⟨lost.passed, lost.clock.trans later, lost.pending, lost.dispatched, lost.suppressed⟩
  | insertAsset id =>
    obtain ⟨_, stepped⟩ := Option.ite_none_left_eq_some.mp stepped
    cases stepped
    exact ⟨lost.passed, lost.clock, lost.pending, lost.dispatched, lost.suppressed⟩
  | insertEvent eventType assetId detectedAt =>
    obtain ⟨_, stepped⟩ := Option.ite_none_right_eq_some.mp stepped
    cases stepped
    exact ⟨lost.passed, lost.clock, lost.pending, lost.dispatched, lost.suppressed⟩
  | runAllChecks =>
    simp only [discoveryAlerts] at stepped
    split at stepped
    · cases stepped
      exact ⟨lost.passed, lost.clock, List.not_mem_nil, lost.dispatched, lost.suppressed⟩
    · cases stepped
  | returns => exact lost.returns stepped
  | raises => exact lost.raises stepped

end

/-! ## Two runs -/

def quietEngine : DiscoveryState := { now := 0, started := 0, lastCheck := 0 }

def stableOrder : NewestFirst := OrderBy.stable _

/-- An event is inserted after the query for it, before the end of the run. -/
def insertedMeanwhile : List DiscoveryLabel :=
  [.insertAsset 1, .runAllChecks, .returns, .tick 5, .insertEvent .newAssetDetected (some 1) 5,
    .returns, .tick 6, .returns]

/-- The look-up of one event's asset fails, and another event comes after it. -/
def failsBefore : List DiscoveryLabel :=
  [.insertAsset 1, .insertAsset 2, .tick 5, .insertEvent .newAssetDetected (some 1) 5, .tick 6,
    .insertEvent .newAssetDetected (some 2) 6, .runAllChecks, .returns, .returns, .raises,
    .returns, .tick 7, .returns]

def firstAsset : DiscoveryEvent := ⟨1, .newAssetDetected, some 1, 5⟩

/-- The event is to be alerted after the run, and in no continuation it is. -/
def NeverHandled (labels : List DiscoveryLabel) (event : DiscoveryEvent) : Prop :=
  ∃ s, (discoveryAlerts stableOrder).run quietEngine labels = some s ∧ event ∈ s.events ∧
    Alertable s event ∧ ∀ more s', (discoveryAlerts stableOrder).run s more = some s' →
      ¬ Handled quietEngine s' event

/-- An event is lost that is inserted while a check runs; and one that comes after an event
    whose handling fails. -/
theorem first_asset_lost :
    NeverHandled insertedMeanwhile firstAsset ∧ NeverHandled failsBefore firstAsset := by
  constructor
  · refine ⟨_, rfl, by decide, by decide, fun more s' ran => ?_⟩
    exact (lost_for_good ⟨by decide, by decide, by decide, by decide, by decide⟩ ran).not_handled
  · refine ⟨_, rfl, by decide, by decide, fun more s' ran => ?_⟩
    exact (lost_for_good ⟨by decide, by decide, by decide, by decide, by decide⟩ ran).not_handled

def checkedAfter : List DiscoveryLabel :=
  [.insertAsset 1, .tick 5, .insertEvent .newAssetDetected (some 1) 5, .tick 6, .runAllChecks,
    .returns, .returns, .returns, .returns, .returns, .returns, .returns]

theorem first_asset_handled :
    ∃ s, (discoveryAlerts stableOrder).run quietEngine checkedAfter = some s ∧
      Handled quietEngine s firstAsset := by
  have timely : (discoveryAlerts stableOrder).Guarded Timely quietEngine checkedAfter := by
    decide +kernel
  exact ⟨_, rfl, discovery_alerts_complete ⟨rfl, rfl, rfl⟩ (by rfl) timely firstAsset (by decide)
    (by decide) (by decide)⟩

end BurnLens.Alerts
