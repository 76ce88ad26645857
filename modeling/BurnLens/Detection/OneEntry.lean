import BurnLens.Detection.Inventory
import BurnLens.Library.GroupBy
import BurnLens.Library.Named

/-! # One entry for an asset

The listing shows fifty assets of a provider, and nothing keeps a row from being inserted between
the look-up and the insert of a detection.  There is one row and at most one event for each asset
in every run in which a look-up sees the row of its asset where there is one, and no two detections
of an asset are both between the look-up and the insert.
-/

namespace BurnLens.Detection

open Library Storage

def Inventory.newAssetEvents (w : Inventory) : List DiscoveryEvent :=
  w.events.filter fun event => event.eventType = .newAssetDetected

/-- The re-detection has set the time of the row's last activity, or a call is about to. -/
def Updated (s : DetectionState) (redetection : Nat × Time) : Prop :=
  redetection ∈ s.world.updates ∨
    ∃ call rest, (call, .touch redetection.1 redetection.2 rest) ∈ s.calls

structure OneEntry (s : DetectionState) : Prop where
  rows : ∀ a ∈ s.world.assets, ∀ b ∈ s.world.assets, assetKey a = assetKey b → a = b
  events : ∀ e ∈ s.world.newAssetEvents, ∀ f ∈ s.world.newAssetEvents,
    ∀ a ∈ s.world.assets, ∀ b ∈ s.world.assets, e.assetId = some a.id → f.assetId = some b.id →
      assetKey a = assetKey b → e = f
  updated : ∀ redetection ∈ s.world.redetections, Updated s redetection
  -- a row bears the last time that was set
  lastActive : ∀ a ∈ s.world.assets, ∀ time, s.world.updates.lookup a.id = some time →
    a.lastActiveAt = time
  approved : ∀ a ∈ s.world.assets, a.status = .approved →
    ∀ b ∈ s.world.assets, assetKey b = assetKey a → b.status ≠ .shadow

/-! ## Runs without a race -/

/-- A call is between the look-up and the insert of the asset. -/
def DetectorPhase.inserting (key : AssetKey) : DetectorPhase → Nat
  | .insert asset _ => if assetKey asset = key then 1 else 0
  | _ => 0

/-- A call is about to insert the event of the row. -/
def DetectorPhase.announcing (id : Nat) : DetectorPhase → Nat
  | .event assetId _ _ => if assetId = id then 1 else 0
  | _ => 0

/-- A call is about to set the time of the row. -/
def DetectorPhase.touching (id : Nat) : DetectorPhase → Nat
  | .touch assetId _ _ => if assetId = id then 1 else 0
  | _ => 0

def DetectorPhase.lookingUp : DetectorPhase → Option Detected
  | .lookUp (d :: _) => some d
  | _ => none

/-- The listing of a look-up has the row of its asset, and no other detection of the asset is about
    to insert one. -/
def Undisturbed (s : DetectionState) : DetectionLabel → Prop
  | .advance k => ∀ c ∈ s.calls[k]?, ∀ d ∈ c.2.lookingUp,
    (∀ asset ∈ s.world.assets, assetKey asset = d.key →
      asset ∈ getAssets d.provider s.world.assets) ∧
    ∀ other ∈ s.calls, other.2.inserting d.key = 0
  | .happen _ => True

instance (s : DetectionState) : (label : DetectionLabel) → Decidable (Undisturbed s label)
  | .advance k => inferInstanceAs (Decidable (∀ c ∈ s.calls[k]?, ∀ d ∈ c.2.lookingUp, _ ∧ _))
  | .happen _ => isTrue trivial

structure Orderly (s : DetectionState) : Prop where
  ids : s.world.assets.map AiAsset.id = List.range' 1 s.world.assets.length
  entries : ∀ key, (s.world.assets.map assetKey).count key +
    total (fun _ phase => phase.inserting key) s.calls ≤ 1
  announced : ∀ id, (s.world.newAssetEvents.map DiscoveryEvent.assetId).count (some id) +
    total (fun _ phase => phase.announcing id) s.calls ≤ 1
  -- only rows that are there have events
  known : ∀ id, s.world.assets.length < id →
    (s.world.newAssetEvents.map DiscoveryEvent.assetId).count (some id) +
      total (fun _ phase => phase.announcing id) s.calls = 0
  updated : ∀ redetection ∈ s.world.redetections, Updated s redetection
  -- only rows that are there are set
  touched : ∀ id, s.world.assets.length < id →
    (s.world.updates.map Prod.fst).count id +
      total (fun _ phase => phase.touching id) s.calls = 0
  lastActive : ∀ a ∈ s.world.assets, ∀ time, s.world.updates.lookup a.id = some time →
    a.lastActiveAt = time

section

variable {s : DetectionState} {w : Inventory} {k : Nat} {call : DetectorCall}
  {phase next : DetectorPhase} {key : AssetKey} {d : Detected}

theorem eq_of_count_le_one {α β : Type} [BEq β] [LawfulBEq β] {f : α → β} {l : List α} {b : β}
    (once : (l.map f).count b ≤ 1) {x y : α} (inFirst : x ∈ l) (inSecond : y ∈ l) (its : f x = b)
    (its' : f y = b) : x = y := by
  rw [List.count, List.countP_map, List.countP_eq_length_filter] at once
  obtain ⟨z, single⟩ | none := Nat.le_one_iff_eq_zero_or_eq_one.mp once |>.symm.imp
    List.length_eq_one_iff.mp List.eq_nil_of_length_eq_zero
  · have only : ∀ a ∈ l, f a = b → a = z := by
      intro a member its
      have kept : a ∈ l.filter ((· == b) ∘ f) := List.mem_filter.mpr ⟨member, by simpa using its⟩
      rw [single] at kept
      exact List.mem_singleton.mp kept
    rw [only x inFirst its, only y inSecond its']
  · exact absurd its (by simpa using List.filter_eq_nil_iff.mp none x inFirst)

theorem Orderly.keys (orderly : Orderly s) : (s.world.assets.map assetKey).Nodup :=
  List.nodup_iff_count_le_one.mpr fun key => le_of_add_le_left (orderly.entries key)

theorem Orderly.row_eq (orderly : Orderly s) {a b : AiAsset} (inFirst : a ∈ s.world.assets)
    (inSecond : b ∈ s.world.assets) (same : assetKey a = assetKey b) : a = b :=
  List.inj_on_of_nodup_map orderly.keys inFirst inSecond same

theorem Orderly.event_eq (orderly : Orderly s) {e f : DiscoveryEvent}
    (inFirst : e ∈ s.world.newAssetEvents) (inSecond : f ∈ s.world.newAssetEvents) {id : Nat}
    (its : e.assetId = some id) (its' : f.assetId = some id) : e = f := by
  exact eq_of_count_le_one (le_of_add_le_left (orderly.announced id)) inFirst inSecond its its'

theorem Orderly.oneEntry (orderly : Orderly s) : OneEntry s where
  rows _ inFirst _ inSecond same := orderly.row_eq inFirst inSecond same
  events e inFirst f inSecond a row b row' its its' same := by
    cases orderly.row_eq row row' same
    exact orderly.event_eq inFirst inSecond its its'
  updated := orderly.updated
  lastActive := orderly.lastActive
  approved a row approved b row' same := by
    cases orderly.row_eq row row' same.symm
    rw [approved]
    exact nofun

/-! ## Steps -/

theorem Updated.advance {redetection : Nat × Time} (updated : Updated s redetection)
    (found : s.calls[k]? = some (call, phase)) (more : s.world.updates ⊆ w.updates)
    (own : ∀ rest, phase = .touch redetection.1 redetection.2 rest → redetection ∈ w.updates) :
    Updated ⟨w, s.calls.set k (call, next)⟩ redetection := by
  obtain done | ⟨other, rest, member⟩ := updated
  · exact Or.inl (more done)
  · obtain ⟨j, there⟩ := List.mem_iff_getElem?.mp member
    by_cases same : j = k
    · rw [same, found] at there
      cases there
      exact Or.inl (own rest rfl)
    · refine Or.inr ⟨other, rest, List.mem_iff_getElem?.mpr ⟨j, ?_⟩⟩
      rw [List.getElem?_set_ne (Ne.symm same)]
      exact there

/-- What a statement may do to the rows, the events and its own phase. -/
theorem Orderly.advance (orderly : Orderly s) (found : s.calls[k]? = some (call, phase))
    (ids : w.assets.map AiAsset.id = List.range' 1 w.assets.length)
    (more : s.world.assets.length ≤ w.assets.length)
    -- a statement passes its asset on, or finds that no other has it
    (entries : ∀ key, (w.assets.map assetKey).count key + next.inserting key =
        (s.world.assets.map assetKey).count key + phase.inserting key ∨
      (w.assets.map assetKey).count key + next.inserting key ≤ 1 ∧
        total (fun _ phase => DetectorPhase.inserting key phase) s.calls = 0)
    -- a statement passes its event on, or has the one of a new row
    (announced : ∀ id, (w.newAssetEvents.map DiscoveryEvent.assetId).count (some id) +
        next.announcing id = (s.world.newAssetEvents.map DiscoveryEvent.assetId).count (some id) +
          phase.announcing id ∨
      s.world.assets.length < id ∧ id ≤ w.assets.length ∧
        (w.newAssetEvents.map DiscoveryEvent.assetId).count (some id) + next.announcing id ≤ 1)
    (updated : ∀ redetection ∈ w.redetections,
      Updated ⟨w, s.calls.set k (call, next)⟩ redetection)
    -- a statement sets a time that it was about to set, or is about to set one of a row
    (touched : ∀ id, (w.updates.map Prod.fst).count id + next.touching id =
        (s.world.updates.map Prod.fst).count id + phase.touching id ∨ id ≤ w.assets.length)
    (lastActive : ∀ a ∈ w.assets, ∀ time, w.updates.lookup a.id = some time →
      a.lastActiveAt = time) :
    Orderly ⟨w, s.calls.set k (call, next)⟩ := by
  have inserting : ∀ key,
      total (fun _ phase => phase.inserting key) (s.calls.set k (call, next)) +
          phase.inserting key =
        total (fun _ phase => DetectorPhase.inserting key phase) s.calls + next.inserting key :=
    fun key => total_set _ found next
  have announcing : ∀ id,
      total (fun _ phase => phase.announcing id) (s.calls.set k (call, next)) +
          phase.announcing id =
        total (fun _ phase => DetectorPhase.announcing id phase) s.calls + next.announcing id :=
    fun id => total_set _ found next
  have touching : ∀ id,
      total (fun _ phase => phase.touching id) (s.calls.set k (call, next)) + phase.touching id =
        total (fun _ phase => DetectorPhase.touching id phase) s.calls + next.touching id :=
    fun id => total_set _ found next
  refine ⟨ids, fun key => ?_, fun id => ?_, fun id later => ?_, updated, fun id later => ?_,
    lastActive⟩
  · dsimp only
    have before := orderly.entries key
    have balance := inserting key
    obtain passed | ⟨new, nobody⟩ := entries key <;> omega
  · dsimp only
    have before := orderly.announced id
    have balance := announcing id
    obtain passed | ⟨later, _, new⟩ := announced id
    · omega
    · have none := orderly.known id later
      omega
  · dsimp only at later ⊢
    have none := orderly.known id (more.trans_lt later)
    have balance := announcing id
    obtain passed | ⟨_, there, _⟩ := announced id
    · omega
    · exact absurd later (not_lt.mpr there)
  · dsimp only at later ⊢
    have none := orderly.touched id (more.trans_lt later)
    have balance := touching id
    obtain passed | there := touched id
    · omega
    · exact absurd later (not_lt.mpr there)

theorem Orderly.id_le (orderly : Orderly s) {asset : AiAsset} (row : asset ∈ s.world.assets) :
    asset.id ≤ s.world.assets.length := by
  have listed : asset.id ∈ s.world.assets.map AiAsset.id := List.mem_map_of_mem row
  rw [orderly.ids, List.mem_range'_1] at listed
  omega

theorem match?_some {asset : AiAsset} (matched : w.match? d = some asset) :
    asset ∈ w.assets ∧ assetKey asset = d.key := by
  have listed := mem_getAssets (List.mem_of_find?_eq_some matched)
  have its := List.find?_some matched
  simp only [decide_eq_true_eq] at its
  refine ⟨listed.1, ?_⟩
  rw [assetKey, Detected.key, listed.2, its.1, its.2]

theorem match?_none (matched : w.match? d = none) {asset : AiAsset}
    (listed : asset ∈ getAssets d.provider w.assets) : assetKey asset ≠ d.key := by
  intro same
  have other := List.find?_eq_none.mp matched asset listed
  simp only [assetKey, Detected.key, Prod.mk.injEq] at same
  exact other (by simpa using same.2)

theorem Orderly.lookUp (orderly : Orderly s) {rest : List Detected}
    (found : s.calls[k]? = some (call, .lookUp (d :: rest)))
    (listed : ∀ asset ∈ s.world.assets, assetKey asset = d.key →
      asset ∈ getAssets d.provider s.world.assets)
    (alone : ∀ c ∈ s.calls, c.2.inserting d.key = 0)
    (went : s.world.advance (.lookUp (d :: rest)) = some (w, next)) :
    Orderly ⟨w, s.calls.set k (call, next)⟩ := by
  cases went
  have before : ∀ redetection ∈ s.world.redetections, ∀ w next,
      s.world.updates ⊆ w.updates → Updated ⟨w, s.calls.set k (call, next)⟩ redetection := by
    intro redetection member w next more
    exact (orderly.updated redetection member).advance found more nofun
  cases matched : s.world.match? d with
  | some asset =>
    obtain ⟨row, same⟩ := match?_some matched
    refine orderly.advance found orderly.ids le_rfl (fun _ => Or.inl rfl) (fun _ => Or.inl rfl)
      (fun redetection member => ?_) (fun id => ?_) orderly.lastActive
    · obtain new | old := List.mem_append.mp member
      · obtain ⟨other, known, rfl⟩ := List.mem_map.mp new
        obtain ⟨row', same'⟩ := List.mem_filter.mp known
        cases orderly.row_eq row' row ((of_decide_eq_true same').trans same.symm)
        refine Or.inr ⟨call, rest, List.mem_of_getElem? (List.getElem?_set_self ?_)⟩
        exact (List.getElem?_eq_some_iff.mp found).1
      · exact before redetection old _ _ (List.Subset.refl _)
    · by_cases its : asset.id = id
      · exact Or.inr (its ▸ orderly.id_le row)
      · exact Or.inl (congrArg (_ + ·) (if_neg its))
  | none =>
    have noRow : ∀ asset ∈ s.world.assets, assetKey asset ≠ d.key :=
      fun asset row same => match?_none matched (listed asset row same) same
    have known : (s.world.assets.filter fun asset => assetKey asset = d.key) = [] := by
      simpa using noRow
    refine orderly.advance found orderly.ids le_rfl (fun key => ?_) (fun _ => Or.inl rfl)
      (fun redetection member => ?_) (fun _ => Or.inl rfl) orderly.lastActive
    · by_cases same : d.key = key
      · subst same
        refine Or.inr ⟨?_, total_eq_zero fun call phase member => alone (call, phase) member⟩
        have absent : (s.world.assets.map assetKey).count d.key = 0 := by
          apply List.count_eq_zero.mpr
          intro member
          obtain ⟨asset, row, same⟩ := List.mem_map.mp member
          exact noRow asset row same
        simp only [absent, DetectorPhase.inserting]
        split <;> omega
      · exact Or.inl (congrArg (_ + ·) (if_neg same))
    · obtain new | old := List.mem_append.mp member
      · rw [known] at new
        cases new
      · exact before redetection old _ _ (List.Subset.refl _)

theorem Orderly.insert (orderly : Orderly s) {asset : AiAsset} {rest : List Detected}
    (found : s.calls[k]? = some (call, .insert asset rest))
    (went : s.world.advance (.insert asset rest) = some (w, next)) :
    Orderly ⟨w, s.calls.set k (call, next)⟩ := by
  cases went
  refine orderly.advance found ?_ ?_ (fun key => Or.inl ?_) (fun id => ?_)
    (fun redetection member => ?_) (fun _ => Or.inl rfl) fun a member time last => ?_
  · simp [orderly.ids, List.range'_concat, Nat.add_comm]
  · simp
  · simp only [List.map_append, List.count_append, List.map_cons, List.map_nil,
      List.count_singleton, DetectorPhase.inserting, beq_iff_eq]
    rfl
  · by_cases new : s.world.assets.length + 1 = id
    · subst new
      refine Or.inr ⟨Nat.lt_add_one _, by simp, ?_⟩
      have none := orderly.known _ (Nat.lt_add_one s.world.assets.length)
      have zero : (s.world.newAssetEvents.map DiscoveryEvent.assetId).count
          (some (s.world.assets.length + 1)) = 0 := by omega
      have events : ∀ assets, ({ s.world with assets } : Inventory).newAssetEvents =
        s.world.newAssetEvents := fun _ => rfl
      rw [events, zero]
      simp [DetectorPhase.announcing]
    · refine Or.inl ?_
      simp only [DetectorPhase.announcing, if_neg new]
      rfl
  · exact (orderly.updated redetection member).advance found (List.Subset.refl _) nofun
  · obtain old | new := List.mem_append.mp member
    · exact orderly.lastActive a old time last
    · obtain rfl := List.mem_singleton.mp new
      have none := orderly.touched _ (Nat.lt_add_one s.world.assets.length)
      have absent : s.world.assets.length + 1 ∉ s.world.updates.map Prod.fst :=
        List.count_eq_zero.mp (by omega)
      exact absurd (List.mem_map_of_mem (mem_of_lookup last)) absent

theorem Orderly.event (orderly : Orderly s) {assetId : Nat} {detectedAt : Time}
    {rest : List Detected} (found : s.calls[k]? = some (call, .event assetId detectedAt rest))
    (went : s.world.advance (.event assetId detectedAt rest) = some (w, next)) :
    Orderly ⟨w, s.calls.set k (call, next)⟩ := by
  cases went
  refine orderly.advance found orderly.ids le_rfl (fun _ => Or.inl rfl) (fun id => Or.inl ?_)
    (fun redetection member => ?_) (fun _ => Or.inl rfl) orderly.lastActive
  · simp [Inventory.newAssetEvents, insertDiscoveryEvent, DetectorPhase.announcing,
      List.count_singleton]
  · exact (orderly.updated redetection member).advance found (List.Subset.refl _) nofun

theorem updateAsset_keeps {update : AiAsset → AiAsset} (assets : List AiAsset) (id : Nat)
    (ids : ∀ asset, (update asset).id = asset.id)
    (keys : ∀ asset, assetKey (update asset) = assetKey asset) :
    (updateAsset assets id update).map AiAsset.id = assets.map AiAsset.id ∧
      (updateAsset assets id update).map assetKey = assets.map assetKey ∧
      (updateAsset assets id update).length = assets.length :=
  ⟨map_updateAsset ids assets id, map_updateAsset keys assets id, List.length_map _⟩

theorem Orderly.touch (orderly : Orderly s) {assetId : Nat} {now : Time} {rest : List Detected}
    (found : s.calls[k]? = some (call, .touch assetId now rest))
    (went : s.world.advance (.touch assetId now rest) = some (w, next)) :
    Orderly ⟨w, s.calls.set k (call, next)⟩ := by
  cases went
  obtain ⟨ids, keys, length⟩ := @updateAsset_keeps (fun asset => { asset with lastActiveAt := now })
    s.world.assets assetId (fun _ => rfl) (fun _ => rfl)
  refine orderly.advance found ?_ length.ge (fun key => Or.inl ?_) (fun _ => Or.inl rfl)
    (fun redetection member => ?_) (fun id => Or.inl ?_) fun a member time last => ?_
  · dsimp only
    rw [ids, length]
    exact orderly.ids
  · dsimp only
    rw [keys]
    rfl
  · refine (orderly.updated redetection member).advance found (List.subset_cons_self _ _) ?_
    intro rest' same
    cases same
    exact List.mem_cons_self
  · simp only [List.map_cons, List.count_cons, DetectorPhase.touching, beq_iff_eq, Nat.add_zero]
  · obtain ⟨old, row, rfl⟩ := List.mem_map.mp member
    dsimp only at last
    split at last
    · next its =>
      rw [if_pos its]
      rw [lookup_cons_ite, if_pos its, Option.some.injEq] at last
      exact last
    · next other =>
      rw [if_neg other]
      rw [lookup_cons_ite, if_neg other] at last
      exact orderly.lastActive old row time last

theorem newAssetEvents_setStatus (assetId : Nat) (status : AssetStatus) :
    (w.setStatus assetId status).newAssetEvents = w.newAssetEvents := by
  simp only [Inventory.setStatus, Inventory.newAssetEvents]
  split
  · rfl
  · split
    · rfl
    · simp [insertDiscoveryEvent]

theorem Orderly.happen (orderly : Orderly s) (event : InventoryEvent) :
    Orderly { s with world := s.world.happen event } := by
  cases event with
  | tick now =>
    exact ⟨orderly.ids, orderly.entries, orderly.announced, orderly.known, orderly.updated,
      orderly.touched, orderly.lastActive⟩
  | setStatus assetId status =>
    have events : (s.world.happen (.setStatus assetId status)).newAssetEvents = _ :=
      newAssetEvents_setStatus assetId status
    obtain ⟨ids, keys, length⟩ := @updateAsset_keeps (fun asset => { asset with status })
      s.world.assets assetId (fun _ => rfl) (fun _ => rfl)
    have assets : (s.world.happen (.setStatus assetId status)).assets = s.world.assets ∨
        (s.world.happen (.setStatus assetId status)).assets =
          updateAsset s.world.assets assetId fun asset => { asset with status } := by
      simp only [Inventory.happen, Inventory.setStatus]
      split
      · exact Or.inl rfl
      · exact Or.inr rfl
    have updated : ∀ redetection ∈ (s.world.happen (.setStatus assetId status)).redetections,
        Updated { s with world := s.world.happen (.setStatus assetId status) } redetection := by
      simp only [Inventory.happen, Inventory.setStatus]
      split
      · exact orderly.updated
      · exact orderly.updated
    have updates : (s.world.happen (.setStatus assetId status)).updates = s.world.updates := by
      simp only [Inventory.happen, Inventory.setStatus]
      split <;> rfl
    generalize s.world.happen (.setStatus assetId status) = w at events assets updated updates
    have same : w.assets.map AiAsset.id = s.world.assets.map AiAsset.id ∧
        w.assets.map assetKey = s.world.assets.map assetKey ∧
        w.assets.length = s.world.assets.length := by
      obtain same | same := assets
      · rw [same]
        exact ⟨rfl, rfl, rfl⟩
      · rw [same]
        exact ⟨ids, keys, length⟩
    refine ⟨?_, fun key => ?_, fun id => ?_, fun id later => ?_, updated, fun id later => ?_, ?_⟩
    · dsimp only
      rw [same.1, same.2.2]
      exact orderly.ids
    · dsimp only
      rw [same.2.1]
      exact orderly.entries key
    · dsimp only
      rw [events]
      exact orderly.announced id
    · dsimp only at later ⊢
      rw [events]
      exact orderly.known id (same.2.2 ▸ later)
    · dsimp only at later ⊢
      rw [updates]
      exact orderly.touched id (same.2.2 ▸ later)
    · dsimp only
      rw [updates]
      intro a member time last
      obtain kept | kept := assets
      · exact orderly.lastActive a (kept ▸ member) time last
      · rw [kept] at member
        obtain ⟨old, row, rfl⟩ := List.mem_map.mp member
        split at last
        · next its =>
          rw [if_pos its]
          exact orderly.lastActive old row time last
        · next other =>
          rw [if_neg other]
          exact orderly.lastActive old row time last

theorem orderly_step : detectionMachine.Preserves Undisturbed Orderly := by
  intro s label s' orderly undisturbed stepped
  cases label with
  | happen event =>
    rw [happen_cases stepped]
    exact orderly.happen event
  | advance k =>
    obtain ⟨call, phase, w, next, found, went, rfl⟩ := advance_cases stepped
    cases phase with
    | lookUp detections =>
      cases detections with
      | nil => cases went
      | cons d rest =>
        obtain ⟨listed, alone⟩ := undisturbed _ found d rfl
        exact orderly.lookUp found listed alone went
    | insert asset rest => exact orderly.insert found went
    | event assetId detectedAt rest => exact orderly.event found went
    | touch assetId now rest => exact orderly.touch found went

/-- Calls that have not begun, beside an inventory with one entry for each asset. -/
structure Prepared (sha256 : Str → Str) (s : DetectionState) : Prop where
  ids : s.world.assets.map AiAsset.id = List.range' 1 s.world.assets.length
  keys : (s.world.assets.map assetKey).Nodup
  events : (s.world.newAssetEvents.map DiscoveryEvent.assetId).Nodup
  known : ∀ event ∈ s.world.newAssetEvents, ∀ id, event.assetId = some id →
    id ≤ s.world.assets.length
  redetections : s.world.redetections = []
  updates : s.world.updates = []
  starting : ∀ call phase, (call, phase) ∈ s.calls → phase = .lookUp (call.detections sha256)

theorem Prepared.orderly {sha256 : Str → Str} (prepared : Prepared sha256 s) : Orderly s := by
  have idle : ∀ weight : DetectorPhase → Nat, (∀ detections, weight (.lookUp detections) = 0) →
      total (fun _ phase => weight phase) s.calls = 0 := by
    intro weight none
    apply total_eq_zero
    intro call phase member
    rw [prepared.starting call phase member]
    exact none _
  refine ⟨prepared.ids, fun key => ?_, fun id => ?_, fun id later => ?_, ?_, fun id _ => ?_, ?_⟩
  · rw [idle (DetectorPhase.inserting key) fun _ => rfl]
    exact List.nodup_iff_count_le_one.mp prepared.keys key
  · rw [idle (DetectorPhase.announcing id) fun _ => rfl]
    exact List.nodup_iff_count_le_one.mp prepared.events (some id)
  · rw [idle (DetectorPhase.announcing id) fun _ => rfl, Nat.add_zero, List.count_eq_zero]
    intro member
    obtain ⟨event, new, its⟩ := List.mem_map.mp member
    exact absurd (prepared.known event new id its) (not_le.mpr later)
  · rw [prepared.redetections]
    exact fun _ member => absurd member List.not_mem_nil
  · rw [idle (DetectorPhase.touching id) fun _ => rfl, prepared.updates]
    rfl
  · rw [prepared.updates]
    intro _ _ _ last
    cases last

/-- One entry for each asset, in every undisturbed run of detections and billing runs, however
    their statements interleave. -/
theorem one_entry {sha256 : Str → Str} {start : DetectionState} {labels : List DetectionLabel}
    (prepared : Prepared sha256 start) (ran : detectionMachine.run start labels = some s)
    (undisturbed : detectionMachine.Guarded Undisturbed start labels) : OneEntry s :=
  (orderly_step.run _ prepared.orderly undisturbed ran).oneEntry

end

/-! ## Two rows for an asset -/

def gpt : DetectorCall := .upsertAssetFromDetection "openai" "gpt" "https://api.openai.com" none

def plainHash : Str → Str := id

/-- Two detections of one asset, one after the other. -/
def twoDetections : DetectionState where
  world := { now := 9 }
  calls := [(gpt, .lookUp (gpt.detections plainHash)), (gpt, .lookUp (gpt.detections plainHash))]

def assetOf (id : Nat) (modelName : Str) (status : AssetStatus) : AiAsset where
  id := id
  provider := "openai"
  modelName := modelName
  endpointUrl := "https://api.openai.com"
  status := status
  firstSeenAt := id
  lastActiveAt := id

/-- The operator has approved the oldest of fifty-one assets, which is detected again. -/
def fiftyOne : DetectionState where
  world :=
    { now := 99
      assets := assetOf 1 "gpt" .approved ::
        (List.range 50).map fun i => assetOf (i + 2) (List.replicate i 'm') .shadow }
  calls := [(gpt, .lookUp (gpt.detections plainHash))]

/-- The status of the asset's rows, and the number of events. -/
def entriesOf (s : DetectionState) (labels : List DetectionLabel) :
    Option (List AssetStatus × Nat) :=
  let key : AssetKey := ("openai", "gpt", "https://api.openai.com")
  (detectionMachine.run s labels).map fun s =>
    ((s.world.assets.filter fun asset => assetKey asset = key).map AiAsset.status,
      s.world.newAssetEvents.length)

/-- Two rows and two events for an asset, where two detections look it up before one of them
    inserts it; and a shadow row beside the approved one, where fifty others are newer. -/
theorem gpt_twice :
    entriesOf twoDetections [.advance 0, .advance 1, .advance 0, .advance 1, .advance 0,
      .advance 1] = some ([.shadow, .shadow], 2) ∧
    entriesOf fiftyOne [.advance 0, .advance 0, .advance 0] = some ([.approved, .shadow], 1) := by
  constructor <;> decide +kernel

def inTurn : List DetectionLabel := [.advance 0, .advance 0, .advance 0, .advance 1, .advance 1]

theorem gpt_once :
    ∃ s, detectionMachine.run twoDetections inTurn = some s ∧ s.world.updates = [(1, 9)] ∧
      OneEntry s := by
  have prepared : Prepared plainHash twoDetections := by
    refine ⟨rfl, List.nodup_nil, List.nodup_nil, nofun, rfl, rfl, fun call phase member => ?_⟩
    obtain same | member := List.mem_cons.mp member
    · cases same
      rfl
    · cases List.mem_singleton.mp member
      rfl
  have undisturbed : detectionMachine.Guarded Undisturbed twoDetections inTurn := by
    decide +kernel
  obtain ⟨s, ran, updates⟩ : ∃ s, detectionMachine.run twoDetections inTurn = some s ∧
      s.world.updates = [(1, 9)] := ⟨_, rfl, by decide +kernel⟩
  exact ⟨s, ran, updates, one_entry prepared ran undisturbed⟩

end BurnLens.Detection
