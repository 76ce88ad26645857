import BurnLens.Config
import BurnLens.Library.Paging
import Mathlib.Data.Prod.Lex

/-! # Assets and discovery events

The tables `ai_assets` and `discovery_events`.  Neither has a row removed, so that an id is one
more than the number of rows before it; the assets have no constraint but for the id.
-/

namespace BurnLens.Storage

open Library

inductive AssetStatus where
  | active
  | inactive
  | shadow
  | approved
  | deprecated
deriving DecidableEq

structure AiAsset where
  id : Nat := 0
  provider : Str
  modelName : Str
  endpointUrl : Str
  apiKeyHash : Option Str := none
  status : AssetStatus := .shadow
  firstSeenAt : Time
  lastActiveAt : Time
deriving DecidableEq

inductive EventType where
  | newAssetDetected
  | modelChanged
  | providerChanged
  | keyRotated
  | assetInactive
deriving DecidableEq

/-- A row of `discovery_events`. -/
structure DiscoveryEvent where
  id : Nat
  eventType : EventType
  assetId : Option Nat
  detectedAt : Time
deriving DecidableEq

def insertDiscoveryEvent (events : List DiscoveryEvent) (eventType : EventType)
    (assetId : Option Nat) (detectedAt : Time) : List DiscoveryEvent :=
  events ++ [⟨events.length + 1, eventType, assetId, detectedAt⟩]

def insertAsset (assets : List AiAsset) (asset : AiAsset) : List AiAsset × Nat :=
  (assets ++ [{ asset with id := assets.length + 1 }], assets.length + 1)

/-- `ORDER BY first_seen_at DESC, id ASC`. -/
def AiAsset.rank (asset : AiAsset) : Timeᵒᵈ ×ₗ Nat := toLex (OrderDual.toDual asset.firstSeenAt, asset.id)

/-- `get_assets` for a provider. -/
def getAssets (provider : Str) (assets : List AiAsset) : List AiAsset :=
  page 50 0 ((OrderBy.stable AiAsset.rank).order
    (assets.filter fun asset => asset.provider = provider))

/-- `UPDATE ai_assets ... WHERE id = ?`. -/
def updateAsset (assets : List AiAsset) (id : Nat) (update : AiAsset → AiAsset) : List AiAsset :=
  assets.map fun asset => if asset.id = id then update asset else asset

theorem mem_getAssets {provider : Str} {assets : List AiAsset} {asset : AiAsset}
    (listed : asset ∈ getAssets provider assets) : asset ∈ assets ∧ asset.provider = provider := by
  have member := List.mem_of_mem_drop (List.mem_of_mem_take listed)
  rw [((OrderBy.stable AiAsset.rank).perm _).mem_iff] at member
  simpa using member

theorem map_updateAsset {α : Type} {f : AiAsset → α} {update : AiAsset → AiAsset}
    (keeps : ∀ asset, f (update asset) = f asset) (assets : List AiAsset) (id : Nat) :
    (updateAsset assets id update).map f = assets.map f := by
  rw [updateAsset, List.map_map]
  apply List.map_congr_left
  intro asset _
  simp only [Function.comp_apply]
  split
  · exact keeps asset
  · rfl

end BurnLens.Storage
