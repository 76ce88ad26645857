import BurnLens.Library.Machine
import BurnLens.Storage.Assets

/-! # Alerts about discovered assets

The checks of one `DiscoveryAlertEngine` on new assets and new providers, one call awaited after
another, beside assets and events that are inserted.  What was dispatched and what was suppressed
is kept for good.
-/

namespace BurnLens.Alerts

open Library Storage

/-- `check_shadow_alerts` and `check_new_provider_alerts`, which are also the types of their
    alerts. -/
inductive DiscoveryCheck where
  | shadow
  | newProvider
deriving DecidableEq

namespace DiscoveryCheck

def eventType : DiscoveryCheck → EventType
  | shadow => .newAssetDetected
  | newProvider => .providerChanged

def withinHours : DiscoveryCheck → Nat
  | shadow => 24
  | newProvider => 72

def window (check : DiscoveryCheck) : Time := check.withinHours * 3600000000

end DiscoveryCheck

abbrev NewestFirst := OrderBy fun event : DiscoveryEvent => OrderDual.toDual event.detectedAt

/-- `get_new_shadow_events_since` and `get_new_provider_events_since`. -/
def newEventsSince (newestFirst : NewestFirst) (check : DiscoveryCheck) (since : Time)
    (events : List DiscoveryEvent) : List DiscoveryEvent :=
  newestFirst.order (events.filter fun event =>
    event.eventType = check.eventType ∧ since ≤ event.detectedAt)

theorem mem_newEventsSince {newestFirst : NewestFirst} {check : DiscoveryCheck} {since : Time}
    {events : List DiscoveryEvent} {event : DiscoveryEvent} :
    event ∈ newEventsSince newestFirst check since events ↔
      event ∈ events ∧ event.eventType = check.eventType ∧ since ≤ event.detectedAt := by
  rw [newEventsSince, (newestFirst.perm _).mem_iff]
  simp

/-! ## The engine -/

/-- The call at which `run_all_checks` waits: a query, or one about the first of its events.  The
    two calls of the deduplication read the clock before they wait. -/
inductive DiscoveryPhase where
  | idle
  | events (check : DiscoveryCheck)
  | wasFired (check : DiscoveryCheck) (event : DiscoveryEvent) (rest : List DiscoveryEvent)
      (asked : Time)
  | asset (check : DiscoveryCheck) (event : DiscoveryEvent) (rest : List DiscoveryEvent)
  | dispatch (check : DiscoveryCheck) (event : DiscoveryEvent) (rest : List DiscoveryEvent)
  | markFired (check : DiscoveryCheck) (event : DiscoveryEvent) (rest : List DiscoveryEvent)
      (sent : Time)
  -- `check_spend_spikes`
  | spikes
deriving DecidableEq

def DiscoveryCheck.ended : DiscoveryCheck → DiscoveryPhase
  | shadow => .events newProvider
  | newProvider => .spikes

def DiscoveryCheck.next (check : DiscoveryCheck) (now : Time) :
    List DiscoveryEvent → DiscoveryPhase
  | [] => check.ended
  | event :: rest => .wasFired check event rest now

/-- An alert that was dispatched. -/
structure Dispatch where
  check : DiscoveryCheck
  event : DiscoveryEvent
  sent : Time
deriving DecidableEq

structure Suppression where
  check : DiscoveryCheck
  event : DiscoveryEvent
  asked : Time
  firedAt : Time
deriving DecidableEq

structure DiscoveryState where
  now : Time
  assets : List Nat := []
  events : List DiscoveryEvent := []
  -- the rows of `fired_alerts`
  fired : DiscoveryCheck → Option Nat → Option Time := fun _ _ => none
  started : Time
  lastCheck : Time
  phase : DiscoveryPhase := .idle
  -- what the queries of the run under way have returned
  read : List DiscoveryEvent := []
  dispatched : List Dispatch := []
  suppressed : List Suppression := []

inductive DiscoveryLabel where
  | tick (now : Time)
  | insertAsset (id : Nat)
  | insertEvent (eventType : EventType) (assetId : Option Nat) (detectedAt : Time)
  | runAllChecks
  -- the call that is awaited
  | returns
  | raises

namespace DiscoveryState

variable (s : DiscoveryState)

def hasAsset (event : DiscoveryEvent) : Bool := event.assetId.any s.assets.contains

def insertEvent (eventType : EventType) (assetId : Option Nat) (detectedAt : Time) :
    DiscoveryState :=
  { s with events := insertDiscoveryEvent s.events eventType assetId detectedAt }

/-- `was_alert_fired`: when, if within the window. -/
def wasAlertFired (check : DiscoveryCheck) (event : DiscoveryEvent) (asked : Time) :
    Option Time :=
  (s.fired check event.assetId).filter fun firedAt => asked - check.window ≤ firedAt

def markAlertFired (check : DiscoveryCheck) (event : DiscoveryEvent) (sent : Time) :
    DiscoveryState :=
  { s with
    fired := fun other assetId =>
      if other = check ∧ assetId = event.assetId then some sent else s.fired other assetId }

/-- The end of `run_all_checks`. -/
def finish : DiscoveryState := { s with lastCheck := s.now, phase := .idle }

def returns (newestFirst : NewestFirst) : Option DiscoveryState :=
  match s.phase with
  | .idle => none
  | .events check =>
    let events := newEventsSince newestFirst check s.lastCheck s.events
    some { s with read := s.read ++ events, phase := check.next s.now events }
  | .wasFired check event rest asked =>
    match s.wasAlertFired check event asked with
    | some firedAt =>
      some { s with
        suppressed := ⟨check, event, asked, firedAt⟩ :: s.suppressed
        phase := check.next s.now rest }
    | none => some { s with phase := .asset check event rest }
  | .asset check event rest =>
    some { s with
      phase := if s.hasAsset event then .dispatch check event rest else check.next s.now rest }
  | .dispatch check event rest =>
    some { s with
      dispatched := ⟨check, event, s.now⟩ :: s.dispatched
      phase := .markFired check event rest s.now }
  | .markFired check event rest sent =>
    some { s.markAlertFired check event sent with phase := check.next s.now rest }
  | .spikes => some s.finish

def raises : Option DiscoveryState :=
  match s.phase with
  | .idle => none
  | .events check => some { s with phase := check.ended }
  -- "allowing alert to fire"
  | .wasFired check event rest _ => some { s with phase := .asset check event rest }
  -- the exception ends the check
  | .asset check _ _ | .dispatch check _ _ => some { s with phase := check.ended }
  | .markFired check _ rest _ => some { s with phase := check.next s.now rest }
  | .spikes => some s.finish

end DiscoveryState

def discoveryAlerts (newestFirst : NewestFirst) : Machine DiscoveryState DiscoveryLabel where
  step s
    | .tick now => if s.now ≤ now then some { s with now } else none
    -- an id that no event has yet
    | .insertAsset id =>
      if s.events.any fun event => event.assetId = some id then none
      else some { s with assets := id :: s.assets }
    | .insertEvent eventType assetId detectedAt =>
      if detectedAt ≤ s.now then some (s.insertEvent eventType assetId detectedAt) else none
    | .runAllChecks =>
      match s.phase with
      | .idle => some { s with phase := .events .shadow, read := [] }
      | _ => none
    | .returns => s.returns newestFirst
    | .raises => s.raises

end BurnLens.Alerts
