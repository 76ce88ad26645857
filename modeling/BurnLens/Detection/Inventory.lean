import BurnLens.Library.Fleet
import BurnLens.Storage.Assets

/-! # The inventory of assets

The detection of an asset looks it up, and then inserts it with an event, or updates the time of its
last activity: each a statement of its own.  Detections come from requests, one each, and from the
billing parsers, one after another in a run; any number of both are under way at once.  A call that
fails at a statement takes no further step.
-/

namespace BurnLens.Detection

open Library Storage

structure Detected where
  provider : Str
  modelName : Str
  endpointUrl : Str
  apiKeyHash : Option Str

abbrev AssetKey := Str × Str × Str

def Detected.key (d : Detected) : AssetKey := (d.provider, d.modelName, d.endpointUrl)

/-- A result of a billing parser. -/
structure BillingItem where
  model : Str := "unknown"
  apiKeyId : Option Str := none

/-- `_endpoint_url`. -/
def canonicalEndpointUrl (provider : Str) : Str :=
  let urls : List (Str × Str) :=
    [("openai", "https://api.openai.com"),
     ("anthropic", "https://api.anthropic.com"),
     ("google", "https://generativelanguage.googleapis.com"),
     ("azure_openai", "https://openai.azure.com"),
     ("bedrock", "https://bedrock-runtime.amazonaws.com"),
     ("cohere", "https://api.cohere.com"),
     ("mistral", "https://api.mistral.ai")]
  (urls.lookup provider).getD ("https://" ++ provider ++ ".api")

inductive DetectorCall where
  | upsertAssetFromDetection (provider modelName endpointUrl : Str) (apiKeyHash : Option Str)
  -- the results of the parsers, with their providers
  | runAllParsers (results : List (Str × BillingItem))

def DetectorCall.detections (sha256 : Str → Str) : DetectorCall → List Detected
  | upsertAssetFromDetection provider modelName endpointUrl apiKeyHash =>
    [⟨provider, modelName, endpointUrl, apiKeyHash⟩]
  | runAllParsers results =>
    results.map fun (provider, item) =>
      ⟨provider, item.model, canonicalEndpointUrl provider,
        (item.apiKeyId.filter fun id => id ≠ []).map sha256⟩

structure Inventory where
  now : Time
  assets : List AiAsset := []
  events : List DiscoveryEvent := []
  -- the rows that were detected again, and when
  redetections : List (Nat × Time) := []
  -- the rows of which `last_active_at` was set, and to what
  updates : List (Nat × Time) := []

def assetKey (asset : AiAsset) : AssetKey := (asset.provider, asset.modelName, asset.endpointUrl)

/-- The first asset of the listing that matches. -/
def Inventory.match? (w : Inventory) (d : Detected) : Option AiAsset :=
  (getAssets d.provider w.assets).find? fun asset =>
    asset.modelName = d.modelName ∧ asset.endpointUrl = d.endpointUrl

/-! ## Calls -/

/-- The statement that a call is about to execute. -/
inductive DetectorPhase where
  | lookUp (detections : List Detected)
  | insert (asset : AiAsset) (rest : List Detected)
  | event (assetId : Nat) (detectedAt : Time) (rest : List Detected)
  | touch (assetId : Nat) (now : Time) (rest : List Detected)

def Inventory.advance (w : Inventory) : DetectorPhase → Option (Inventory × DetectorPhase)
  | .lookUp [] => none
  | .lookUp (d :: rest) =>
    let known := w.assets.filter fun asset => assetKey asset = d.key
    some ({ w with redetections := known.map (fun asset => (asset.id, w.now)) ++ w.redetections },
      match w.match? d with
      | some asset => .touch asset.id w.now rest
      | none => .insert { d with firstSeenAt := w.now, lastActiveAt := w.now } rest)
  | .insert asset rest =>
    let (assets, id) := insertAsset w.assets asset
    some ({ w with assets }, .event id w.now rest)
  | .event assetId detectedAt rest =>
    some ({ w with events := insertDiscoveryEvent w.events .newAssetDetected assetId detectedAt },
      .lookUp rest)
  | .touch assetId now rest =>
    some ({ w with
        assets := updateAsset w.assets assetId fun asset => { asset with lastActiveAt := now }
        updates := (assetId, now) :: w.updates },
      .lookUp rest)

inductive InventoryEvent where
  | tick (now : Time)
  -- the operator, by `update_asset_fields`
  | setStatus (assetId : Nat) (status : AssetStatus)

def Inventory.setStatus (w : Inventory) (assetId : Nat) (status : AssetStatus) : Inventory :=
  match w.assets.find? fun asset => asset.id = assetId with
  | none => w
  | some asset =>
    { w with
      assets := updateAsset w.assets assetId fun asset => { asset with status }
      events := if asset.status = status then w.events
        else insertDiscoveryEvent w.events .modelChanged assetId w.now }

def Inventory.happen (w : Inventory) : InventoryEvent → Inventory
  | .tick now => { w with now }
  | .setStatus assetId status => w.setStatus assetId status

def detectionRoutes : Routes Inventory DetectorCall DetectorPhase InventoryEvent where
  advance w _ phase := w.advance phase
  happen := Inventory.happen

abbrev DetectionState := Fleet Inventory DetectorCall DetectorPhase

abbrev DetectionLabel := FleetLabel InventoryEvent

def detectionMachine : Machine DetectionState DetectionLabel := detectionRoutes.machine

end BurnLens.Detection
