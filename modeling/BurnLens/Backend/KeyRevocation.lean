import BurnLens.Backend.ApiKeys
import Mathlib.Data.List.Nodup

/-! # Withdrawn API keys

A lookup that has found its key stores it later, whatever is evicted in between, and the legacy
column knows nothing of a pause.  Where neither shows, a key that is revoked or paused is refused
from then on, or until it is resumed.
-/

namespace BurnLens.Backend

open Library

section

variable (hashApiKey : Str → Str)

def KeyRequest.looksUp : KeyRequest → Option Str
  | .lookup apiKey => some (hashApiKey apiKey)
  | _ => none

/-- The withdrawals that had returned when the lookup began, if it has authenticated its key. -/
def KeyPhase.authenticatedAfter : KeyPhase → List Withdrawal
  | .answered before (some _) => before
  | _ => []

/-- No lookup has authenticated a key whose withdrawal had returned when it began, unless the key
    was paused and has been resumed. -/
def WithdrawalsHold (s : KeyState) : Prop :=
  ∀ c ∈ s.calls, ∀ withdrawal ∈ c.2.authenticatedAfter,
    c.1.looksUp hashApiKey = some withdrawal.keyHash → s.world.inForce withdrawal = false

instance (s : KeyState) : Decidable (WithdrawalsHold hashApiKey s) :=
  inferInstanceAs (Decidable (∀ c ∈ s.calls, _))

def KeyPhase.isFallingBack : KeyPhase → Bool
  | .fallingBack _ => true
  | _ => false

def KeyPhase.isStoring : KeyPhase → Bool
  | .storing _ _ _ _ => true
  | _ => false

def KeyPhase.evicts : KeyPhase → Option Withdrawal
  | .evicting withdrawal => some withdrawal
  | _ => none

/-- What the legacy column says of the hash, `api_keys` does not deny. -/
def KeyWorld.LegacyAgrees (w : KeyWorld) (keyHash : Str) : Prop :=
  (w.selectLegacy keyHash).isSome = true →
    ∀ row ∈ w.apiKeys, row.keyHash = keyHash → row.enabled = true

def AboutToStore (s : KeyState) (keyHash : Str) : Prop :=
  ∃ c ∈ s.calls, c.2.isStoring = true ∧ c.1.looksUp hashApiKey = some keyHash

instance (w : KeyWorld) (keyHash : Str) : Decidable (w.LegacyAgrees keyHash) :=
  inferInstanceAs (Decidable (_ → _))

instance (s : KeyState) (keyHash : Str) : Decidable (AboutToStore hashApiKey s keyHash) :=
  inferInstanceAs (Decidable (∃ c ∈ s.calls, _))

/-- A lookup falls back to a column that agrees with `api_keys`, and a withdrawal in force evicts
    a key that no lookup is about to store. -/
def evictsInTime (s : KeyState) : KeyLabel → Prop
  | .advance k => ∀ c ∈ s.calls[k]?,
      (c.2.isFallingBack = true →
        ∀ keyHash ∈ c.1.looksUp hashApiKey, s.world.LegacyAgrees keyHash) ∧
      ∀ withdrawal ∈ c.2.evicts, s.world.inForce withdrawal = true →
        ¬ AboutToStore hashApiKey s withdrawal.keyHash
  | .happen _ => True

instance (s : KeyState) : (l : KeyLabel) → Decidable (evictsInTime hashApiKey s l)
  | .advance k => inferInstanceAs (Decidable (∀ c ∈ s.calls[k]?,
      (c.2.isFallingBack = true →
        ∀ keyHash ∈ c.1.looksUp hashApiKey, s.world.LegacyAgrees keyHash) ∧
      ∀ withdrawal ∈ c.2.evicts, s.world.inForce withdrawal = true →
        ¬ AboutToStore hashApiKey s withdrawal.keyHash))
  | .happen _ => inferInstanceAs (Decidable True)

end

/-! ## What stands -/

/-- The mark of a withdrawal in a row of its key. -/
def Withdrawal.marks (withdrawal : Withdrawal) (row : ApiKeyRow) : Bool :=
  match withdrawal.pausedAfter with
  | none => row.revoked
  | some _ => row.paused

structure KeyWorld.Stands (w : KeyWorld) (withdrawal : Withdrawal) : Prop where
  stored : withdrawal.keyHash ∈ w.apiKeys.map ApiKeyRow.keyHash
  past : ∀ resumes ∈ withdrawal.pausedAfter, resumes ≤ w.resumed.count withdrawal.keyHash
  marked : w.inForce withdrawal = true →
    ∀ row ∈ w.apiKeys, row.keyHash = withdrawal.keyHash → withdrawal.marks row = true

/-- Between two worlds: what stands goes on to, and nothing is in force again. -/
def KeyWorld.Leads (w w' : KeyWorld) : Prop :=
  ∀ withdrawal, w.Stands withdrawal →
    w'.Stands withdrawal ∧ (w'.inForce withdrawal = true → w.inForce withdrawal = true)

section

variable {w w' : KeyWorld} {withdrawal : Withdrawal} {row : ApiKeyRow} {keyHash : Str}
  {where_ : ApiKeyRow → Bool} {set : ApiKeyRow → ApiKeyRow}

theorem enabled_eq_false (marked : withdrawal.marks row = true) : row.enabled = false := by
  obtain ⟨_, pausedAfter⟩ := withdrawal
  cases pausedAfter with
  | none =>
    have revoked : row.revoked = true := marked
    simp [ApiKeyRow.enabled, revoked]
  | some resumes =>
    have paused : row.paused = true := marked
    simp [ApiKeyRow.enabled, paused]

theorem KeyWorld.Leads.of_eq (apiKeys : w'.apiKeys = w.apiKeys) (resumed : w'.resumed = w.resumed) :
    w.Leads w' := by
  intro withdrawal stands
  have same : w'.inForce withdrawal = w.inForce withdrawal := by
    rw [KeyWorld.inForce, KeyWorld.inForce, resumed]
  refine ⟨⟨?_, ?_, ?_⟩, ?_⟩
  · rw [apiKeys]
    exact stands.stored
  · rw [resumed]
    exact stands.past
  · rw [same, apiKeys]
    exact stands.marked
  · rw [same]
    exact id

theorem updateKeys_some (updated : (w.updateKeys where_ set).2 = some keyHash) :
    ∃ row ∈ w.apiKeys, where_ row = true ∧ row.keyHash = keyHash := by
  obtain ⟨row, found, its⟩ := Option.map_eq_some_iff.mp updated
  exact ⟨row, List.mem_of_find?_eq_some found, List.find?_some found, its⟩

theorem mem_updateKeys (member : row ∈ (w.updateKeys where_ set).1.apiKeys) :
    ∃ old ∈ w.apiKeys, row = if where_ old then set old else old := by
  obtain ⟨old, stored, rfl⟩ := List.mem_map.mp member
  exact ⟨old, stored, rfl⟩

theorem map_updateKeys {β : Type} {f : ApiKeyRow → β} (keeps : ∀ row, f (set row) = f row) :
    (w.updateKeys where_ set).1.apiKeys.map f = w.apiKeys.map f := by
  rw [KeyWorld.updateKeys, List.map_map]
  apply List.map_congr_left
  intro row _
  simp only [Function.comp_apply]
  split
  · exact keeps row
  · rfl

theorem map_resume {β : Type} {f : ApiKeyRow → β}
    (keeps : ∀ row, f { row with paused := false } = f row) :
    (w.resume where_).1.apiKeys.map f = w.apiKeys.map f :=
  map_updateKeys keeps

theorem leads_updateKeys (keeps : ∀ row, (set row).keyHash = row.keyHash)
    (marks : ∀ (withdrawal : Withdrawal) row, withdrawal.marks row = true →
      withdrawal.marks (set row) = true) : w.Leads (w.updateKeys where_ set).1 := by
  intro withdrawal stands
  refine ⟨⟨?_, stands.past, fun inForce row member its => ?_⟩, id⟩
  · rw [map_updateKeys keeps]
    exact stands.stored
  obtain ⟨old, stored, rfl⟩ := mem_updateKeys member
  split at its
  · rename_i updated
    rw [if_pos updated]
    exact marks _ _ (stands.marked inForce old stored ((keeps old).symm.trans its))
  · rename_i other
    rw [if_neg other]
    exact stands.marked inForce old stored its

theorem updateKeys_marked (hashes : (w.apiKeys.map ApiKeyRow.keyHash).Nodup)
    (updated : (w.updateKeys where_ set).2 = some withdrawal.keyHash)
    (keeps : ∀ row, (set row).keyHash = row.keyHash)
    (marks : ∀ row, withdrawal.marks (set row) = true) :
    ∀ row ∈ (w.updateKeys where_ set).1.apiKeys, row.keyHash = withdrawal.keyHash →
      withdrawal.marks row = true := by
  intro row member its
  obtain ⟨named, stored, selected, hash⟩ := updateKeys_some updated
  obtain ⟨old, there, rfl⟩ := mem_updateKeys member
  have same : old.keyHash = withdrawal.keyHash := by
    split at its
    · exact (keeps old).symm.trans its
    · exact its
  obtain rfl := List.inj_on_of_nodup_map hashes there stored (same.trans hash.symm)
  rw [if_pos selected]
  exact marks old

theorem leads_resume (ids : (w.apiKeys.map ApiKeyRow.id).Nodup)
    (single : ∀ row row', where_ row = true → where_ row' = true → row.id = row'.id) :
    w.Leads (w.resume where_).1 := by
  intro withdrawal stands
  have counted : w.resumed.count withdrawal.keyHash ≤
      (w.resume where_).1.resumed.count withdrawal.keyHash := by
    show _ ≤ List.count _ (_ ++ w.resumed)
    rw [List.count_append]
    exact Nat.le_add_left _ _
  have before : (w.resume where_).1.inForce withdrawal = true → w.inForce withdrawal = true := by
    intro inForce
    have past := stands.past
    rw [KeyWorld.inForce] at inForce ⊢
    split
    · rfl
    · rename_i resumes paused
      simp only [paused, decide_eq_true_eq] at inForce ⊢
      have below := past resumes paused
      omega
  refine ⟨⟨?_, fun resumes paused => (stands.past resumes paused).trans counted,
    fun inForce row member its => ?_⟩, before⟩
  · rw [map_resume fun _ => rfl]
    exact stands.stored
  obtain ⟨old, stored, rfl⟩ := mem_updateKeys member
  have marked := stands.marked (before inForce) old stored
  split at its
  · rename_i updated
    rw [if_pos updated]
    have marked := marked its
    rw [Withdrawal.marks] at marked ⊢
    split
    · rename_i revoked
      simpa only [revoked] using marked
    · rename_i resumes paused
      -- the pause would still count as in force after one more resume
      exfalso
      have below := stands.past resumes paused
      have resumed : (w.resume where_).1.resumed = withdrawal.keyHash :: w.resumed := by
        cases found : w.apiKeys.find? where_ with
        | none =>
          rw [List.find?_eq_none] at found
          exact absurd updated (found old stored)
        | some row =>
          have same := List.inj_on_of_nodup_map ids (List.mem_of_find?_eq_some found) stored
            (single _ _ (List.find?_some found) updated)
          simp only [KeyWorld.resume, KeyWorld.updateKeys, found, same, Option.map_some,
            Option.toList_some, List.singleton_append]
          rw [show old.keyHash = withdrawal.keyHash from its]
      rw [KeyWorld.inForce] at inForce
      simp only [paused, resumed, List.count_cons_self, decide_eq_true_eq] at inForce
      omega
  · rename_i other
    rw [if_neg other]
    exact marked its

theorem selectKey_some {workspace : WorkspaceRow}
    (found : w.selectKey keyHash = some (workspace, row)) :
    row ∈ w.apiKeys ∧ row.keyHash = keyHash ∧ row.enabled = true := by
  obtain ⟨row', member, selected⟩ := List.exists_of_findSome?_eq_some found
  split at selected
  · rename_i matches_
    obtain ⟨workspace', _, same⟩ := Option.map_eq_some_iff.mp selected
    cases same
    simp only [Bool.and_eq_true, decide_eq_true_eq] at matches_
    exact ⟨member, matches_⟩
  · cases selected

theorem KeyWorld.Stands.not_inForce (stands : w.Stands withdrawal) (member : row ∈ w.apiKeys)
    (its : row.keyHash = withdrawal.keyHash) (enabled : row.enabled = true) :
    w.inForce withdrawal = false := by
  cases inForce : w.inForce withdrawal with
  | false => rfl
  | true =>
    rw [enabled_eq_false (stands.marked inForce row member its)] at enabled
    cases enabled

end

/-! ## The invariant -/

section

variable {hashApiKey : Str → Str} {s : KeyState} {w w' : KeyWorld} {k : Nat}
  {request : KeyRequest} {phase next : KeyPhase} {withdrawal : Withdrawal}

variable (hashApiKey) in
/-- What is known of a call: a lookup has found its key enabled since every eviction of it. -/
def KeyPhase.Known (w : KeyWorld) (request : KeyRequest) : KeyPhase → Prop
  | .querying before | .fallingBack before => ∀ withdrawal ∈ before, withdrawal ∈ w.evicted
  | .storing before _ _ _ => (∀ withdrawal ∈ before, withdrawal ∈ w.evicted) ∧
      ∀ withdrawal ∈ w.evicted, request.looksUp hashApiKey = some withdrawal.keyHash →
        w.inForce withdrawal = false
  | .answered before workspace => workspace.isSome = true → ∀ withdrawal ∈ before,
      withdrawal ∈ w.evicted ∧ (request.looksUp hashApiKey = some withdrawal.keyHash →
        w.inForce withdrawal = false)
  | .evicting withdrawal => w.Stands withdrawal
  | .clearing withdrawal | .returning withdrawal => withdrawal ∈ w.evicted
  | .entering | .unpausing _ | .ended _ => True

variable (hashApiKey) in
structure KeyInvariant (s : KeyState) : Prop where
  ids : (s.world.apiKeys.map ApiKeyRow.id).Nodup
  hashes : (s.world.apiKeys.map ApiKeyRow.keyHash).Nodup
  stands : ∀ withdrawal ∈ s.world.evicted, s.world.Stands withdrawal
  uncached : ∀ withdrawal ∈ s.world.evicted, s.world.inForce withdrawal = true →
    s.world.cache withdrawal.keyHash = none
  returned : ∀ withdrawal ∈ s.world.returned, withdrawal ∈ s.world.evicted
  known : s.Each (KeyPhase.Known hashApiKey)

theorem not_inForce_of_leads (leads : w.Leads w') (stands : w.Stands withdrawal)
    (lifted : w.inForce withdrawal = false) : w'.inForce withdrawal = false := by
  have back := (leads withdrawal stands).2
  rw [lifted] at back
  simpa using back

theorem KeyPhase.Known.other (known : phase.Known hashApiKey w request) (leads : w.Leads w')
    (stands : ∀ withdrawal ∈ w.evicted, w.Stands withdrawal)
    (evicted : ∀ withdrawal ∈ w.evicted, withdrawal ∈ w'.evicted)
    (new : phase.isStoring = true → ∀ withdrawal ∈ w'.evicted, withdrawal ∉ w.evicted →
      request.looksUp hashApiKey = some withdrawal.keyHash → w'.inForce withdrawal = false) :
    phase.Known hashApiKey w' request := by
  cases phase with
  | querying before | fallingBack before => exact fun m member => evicted m (known m member)
  | storing before workspaceId plan apiKeyId =>
    refine ⟨fun m member => evicted m (known.1 m member), fun m member its => ?_⟩
    by_cases old : m ∈ w.evicted
    · exact not_inForce_of_leads leads (stands m old) (known.2 m old its)
    · exact new rfl m member old its
  | answered before workspace =>
    intro authenticated m member
    obtain ⟨old, lifted⟩ := known authenticated m member
    exact ⟨evicted m old, fun its => not_inForce_of_leads leads (stands m old) (lifted its)⟩
  | evicting withdrawal => exact (leads withdrawal known).1
  | clearing withdrawal | returning withdrawal => exact evicted withdrawal known
  | entering | unpausing | ended => trivial

theorem KeyInvariant.moved (invariant : KeyInvariant hashApiKey s) (leads : s.world.Leads w')
    (ids : (w'.apiKeys.map ApiKeyRow.id).Nodup) (hashes : (w'.apiKeys.map ApiKeyRow.keyHash).Nodup)
    (evicted : w'.evicted = s.world.evicted)
    (uncached : ∀ withdrawal ∈ s.world.evicted, w'.inForce withdrawal = true →
      s.world.cache withdrawal.keyHash = none → w'.cache withdrawal.keyHash = none)
    (returned : ∀ withdrawal ∈ w'.returned, withdrawal ∈ s.world.evicted)
    (own : next.Known hashApiKey w' request) :
    KeyInvariant hashApiKey ⟨w', s.calls.set k (request, next)⟩ := by
  refine ⟨ids, hashes, fun m member => ?_, fun m member inForce => ?_, fun m member => ?_,
    .set own fun j other phase' _ there => ?_⟩
  · rw [evicted] at member
    exact (leads m (invariant.stands m member)).1
  · rw [evicted] at member
    have before := (leads m (invariant.stands m member)).2 inForce
    exact uncached m member inForce (invariant.uncached m member before)
  · rw [evicted]
    exact returned m member
  · refine (invariant.known.at there).other leads invariant.stands (fun m member => ?_) ?_
    · rwa [evicted]
    · intro _ m member fresh _
      rw [evicted] at member
      exact absurd member fresh

theorem KeyInvariant.idle (invariant : KeyInvariant hashApiKey s)
    (apiKeys : w'.apiKeys = s.world.apiKeys) (resumed : w'.resumed = s.world.resumed)
    (evicted : w'.evicted = s.world.evicted)
    (uncached : ∀ keyHash, s.world.cache keyHash = none → w'.cache keyHash = none)
    (returned : ∀ withdrawal ∈ w'.returned, withdrawal ∈ s.world.evicted)
    (own : next.Known hashApiKey w' request) :
    KeyInvariant hashApiKey ⟨w', s.calls.set k (request, next)⟩ :=
  invariant.moved (.of_eq apiKeys resumed) (apiKeys ▸ invariant.ids) (apiKeys ▸ invariant.hashes)
    evicted (fun _ _ _ => uncached _) returned own

theorem evict_none (w : KeyWorld) (keyHash other : Str) (missing : w.cache other = none) :
    (w.evict keyHash).cache other = none := by
  show Function.update w.cache keyHash none other = none
  rw [Function.update_apply]
  split
  · rfl
  · exact missing

theorem KeyInvariant.withdraw (invariant : KeyInvariant hashApiKey s)
    {where_ : ApiKeyRow → Bool} {set : ApiKeyRow → ApiKeyRow} {pausedAfter : Str → Option Nat}
    {missing : Nat} (id : ∀ row, (set row).id = row.id)
    (keyHash : ∀ row, (set row).keyHash = row.keyHash)
    (marks : ∀ (withdrawal : Withdrawal) row, withdrawal.marks row = true →
      withdrawal.marks (set row) = true)
    (past : ∀ keyHash, ∀ resumes ∈ pausedAfter keyHash, resumes ≤ s.world.resumed.count keyHash)
    (marked : ∀ keyHash row, (⟨keyHash, pausedAfter keyHash⟩ : Withdrawal).marks (set row) = true) :
    KeyInvariant hashApiKey ⟨(s.world.updateKeys where_ set).1, s.calls.set k (request,
      withdrawn pausedAfter missing (s.world.updateKeys where_ set).2)⟩ := by
  refine invariant.moved (leads_updateKeys keyHash marks) ?_ ?_ rfl (fun _ _ _ => fun missing => missing)
    invariant.returned ?_
  · rw [map_updateKeys id]
    exact invariant.ids
  · rw [map_updateKeys keyHash]
    exact invariant.hashes
  · cases updated : (s.world.updateKeys where_ set).2 with
    | none => trivial
    | some hash =>
      refine ⟨?_, past hash, fun _ => ?_⟩
      · obtain ⟨row, stored, _, rfl⟩ := updateKeys_some updated
        rw [map_updateKeys keyHash]
        exact List.mem_map_of_mem stored
      · exact updateKeys_marked invariant.hashes updated keyHash (marked hash)

theorem KeyInvariant.revoke (invariant : KeyInvariant hashApiKey s) {token : TokenPayload}
    {keyId : Str} :
    KeyInvariant hashApiKey ⟨(s.world.revoke token keyId).1,
      s.calls.set k (request, (s.world.revoke token keyId).2)⟩ := by
  refine invariant.withdraw (fun _ => rfl) (fun _ => rfl) ?_ (by simp) fun _ _ => rfl
  rintro ⟨keyHash, _ | resumes⟩ row marked
  · rfl
  · exact marked

theorem KeyInvariant.pause (invariant : KeyInvariant hashApiKey s) {workspaceId keyId : Str}
    {creatorFilter : Option Str} {missing : Nat} :
    KeyInvariant hashApiKey ⟨(s.world.pause workspaceId keyId creatorFilter missing).1,
      s.calls.set k (request, (s.world.pause workspaceId keyId creatorFilter missing).2)⟩ := by
  refine invariant.withdraw (fun _ => rfl) (fun _ => rfl) ?_ (by simp) fun _ _ => rfl
  rintro ⟨keyHash, _ | resumes⟩ row marked
  · exact marked
  · rfl

theorem KeyInvariant.resume (invariant : KeyInvariant hashApiKey s) {where_ : ApiKeyRow → Bool}
    (single : ∀ row row', where_ row = true → where_ row' = true → row.id = row'.id)
    (own : next.Known hashApiKey (s.world.resume where_).1 request) :
    KeyInvariant hashApiKey ⟨(s.world.resume where_).1, s.calls.set k (request, next)⟩ := by
  refine invariant.moved (leads_resume invariant.ids single) ?_ ?_ rfl (fun _ _ _ => id)
    invariant.returned own
  · rw [map_resume fun _ => rfl]
    exact invariant.ids
  · rw [map_resume fun _ => rfl]
    exact invariant.hashes

theorem named_id {keyId workspaceId : Str} {creatorFilter : Option Str} {row : ApiKeyRow}
    (named : row.named keyId workspaceId creatorFilter = true) : row.id = keyId := by
  simp only [ApiKeyRow.named, Bool.and_eq_true, decide_eq_true_eq] at named
  exact named.1.1

theorem KeyInvariant.evict (invariant : KeyInvariant hashApiKey s)
    (found : s.calls[k]? = some (request, .evicting withdrawal))
    (early : s.world.inForce withdrawal = true →
      ¬ AboutToStore hashApiKey s withdrawal.keyHash)
    (apiKeys : w'.apiKeys = s.world.apiKeys) (resumed : w'.resumed = s.world.resumed)
    (cache : w'.cache = (s.world.evict withdrawal.keyHash).cache)
    (evicted : w'.evicted = withdrawal :: s.world.evicted)
    (returned : ∀ withdrawal ∈ w'.returned, withdrawal ∈ w'.evicted)
    (own : next.Known hashApiKey w' request) :
    KeyInvariant hashApiKey ⟨w', s.calls.set k (request, next)⟩ := by
  have leads : s.world.Leads w' := .of_eq apiKeys resumed
  have same : ∀ m, w'.inForce m = s.world.inForce m := by
    intro m
    rw [KeyWorld.inForce, KeyWorld.inForce, resumed]
  have stands : ∀ m ∈ w'.evicted, s.world.Stands m := by
    intro m member
    rw [evicted] at member
    obtain rfl | old := List.mem_cons.mp member
    · exact invariant.known.at found
    · exact invariant.stands m old
  refine ⟨apiKeys ▸ invariant.ids, apiKeys ▸ invariant.hashes,
    fun m member => (leads m (stands m member)).1, fun m member inForce => ?_, returned,
    .set own fun j other phase' _ there => ?_⟩
  · show w'.cache m.keyHash = none
    rw [cache]
    obtain rfl | old := List.mem_cons.mp (evicted ▸ member)
    · exact Function.update_self ..
    · exact evict_none _ _ _ (invariant.uncached m old ((same m).symm.trans inForce))
  · refine (invariant.known.at there).other leads invariant.stands (fun m member => ?_) ?_
    · rw [evicted]
      exact List.mem_cons_of_mem _ member
    · intro storing m member fresh its
      rw [evicted] at member
      obtain rfl | old := List.mem_cons.mp member
      · rw [same]
        by_contra inForce
        exact early (by simpa using inForce) ⟨_, List.mem_of_getElem? there, storing, its⟩
      · exact absurd old fresh

/-! ## Runs -/

theorem KeyInvariant.enterLookup (invariant : KeyInvariant hashApiKey s) (apiKey : Str) :
    KeyInvariant hashApiKey ⟨(s.world.enterLookup (hashApiKey apiKey)).1,
      s.calls.set k (.lookup apiKey, (s.world.enterLookup (hashApiKey apiKey)).2)⟩ := by
  rw [KeyWorld.enterLookup]
  split
  · rename_i entry hit
    split
    · refine invariant.idle rfl rfl rfl (fun _ => id) invariant.returned fun _ m member => ?_
      have evicted := invariant.returned m member
      refine ⟨evicted, fun its => ?_⟩
      by_contra inForce
      have missing := invariant.uncached m evicted (by simpa using inForce)
      rw [← Option.some.inj its, hit] at missing
      cases missing
    · exact invariant.idle rfl rfl rfl (evict_none s.world _) invariant.returned invariant.returned
  · exact invariant.idle rfl rfl rfl (fun _ => id) invariant.returned invariant.returned

theorem KeyInvariant.advance (invariant : KeyInvariant hashApiKey s)
    (found : s.calls[k]? = some (request, phase))
    (agrees : phase.isFallingBack = true →
      ∀ keyHash ∈ request.looksUp hashApiKey, s.world.LegacyAgrees keyHash)
    (early : ∀ withdrawal ∈ phase.evicts, s.world.inForce withdrawal = true →
      ¬ AboutToStore hashApiKey s withdrawal.keyHash)
    (went : s.world.advance hashApiKey request phase = some (w, next)) :
    KeyInvariant hashApiKey ⟨w, s.calls.set k (request, next)⟩ := by
  have known := invariant.known.at found
  cases phase with
  | entering =>
    cases request with
    | lookup apiKey =>
      have entered : s.world.enterLookup (hashApiKey apiKey) = (w, next) := Option.some.inj went
      have after := invariant.enterLookup (k := k) apiKey
      rwa [entered] at after
    | revoke token keyId =>
      cases went
      exact invariant.revoke
    | pause token keyId =>
      cases went
      exact invariant.pause
    | pauseAction workspaceId keyId =>
      cases went
      exact invariant.pause
    | resume token keyId =>
      cases went
      refine invariant.resume (fun row row' named named' => ?_) trivial
      simp only [TokenPayload.mayWithdraw, Bool.and_eq_true] at named named'
      exact (named_id named.1).trans (named_id named'.1).symm
    | unpauseAction workspaceId keyId =>
      cases went
      refine invariant.resume (fun row row' named named' => ?_) ?_
      · exact (named_id named).trans (named_id named').symm
      · split <;> trivial
  | querying before =>
    cases request with
    | lookup apiKey =>
      cases went
      refine invariant.idle rfl rfl rfl (fun _ => id) invariant.returned ?_
      split
      · rename_i workspace row selected
        obtain ⟨stored, its, enabled⟩ := selectKey_some selected
        refine ⟨known, fun m member same => ?_⟩
        exact (invariant.stands m member).not_inForce stored
          (its.trans (Option.some.inj same)) enabled
      · exact known
    | _ => cases went
  | fallingBack before =>
    cases request with
    | lookup apiKey =>
      cases went
      refine invariant.idle rfl rfl rfl (fun _ => id) invariant.returned ?_
      split
      · rename_i workspace selected
        refine ⟨known, fun m member same => ?_⟩
        obtain ⟨row, stored, its⟩ := List.mem_map.mp (invariant.stands m member).stored
        have enabled := agrees rfl _ rfl (Option.isSome_of_eq_some selected) row stored
          (its.trans (Option.some.inj same).symm)
        exact (invariant.stands m member).not_inForce stored its enabled
      · intro authenticated
        cases authenticated
    | _ => cases went
  | storing before workspaceId plan apiKeyId =>
    cases request with
    | lookup apiKey =>
      cases went
      obtain ⟨snapshot, lifted⟩ := known
      refine invariant.moved (.of_eq rfl rfl) invariant.ids invariant.hashes rfl
        (fun m member inForce missing => ?_) invariant.returned
        fun _ m member => ⟨snapshot m member, lifted m (snapshot m member)⟩
      show Function.update s.world.cache (hashApiKey apiKey) _ m.keyHash = none
      rw [Function.update_of_ne]
      · exact missing
      · intro same
        have lifted : s.world.inForce m = false := lifted m member (congrArg some same.symm)
        have inForce : s.world.inForce m = true := inForce
        rw [lifted] at inForce
        cases inForce
    | _ => cases went
  | answered before workspace => cases went
  | evicting withdrawal =>
    have early := early withdrawal rfl
    have kept : ∀ m ∈ s.world.returned, m ∈ withdrawal :: s.world.evicted :=
      fun m member => List.mem_cons_of_mem _ (invariant.returned m member)
    have returned : ∀ m ∈ withdrawal :: s.world.returned, m ∈ withdrawal :: s.world.evicted := by
      intro m member
      obtain rfl | old := List.mem_cons.mp member
      · exact List.mem_cons_self ..
      · exact kept m old
    cases request with
    | revoke token keyId =>
      cases went
      exact invariant.evict found early rfl rfl rfl rfl kept (List.mem_cons_self ..)
    | _ =>
      cases went
      exact invariant.evict found early rfl rfl rfl rfl returned trivial
  | clearing withdrawal =>
    cases request with
    | revoke token keyId =>
      cases went
      exact invariant.idle rfl rfl rfl (fun _ => id) invariant.returned known
    | _ => cases went
  | returning withdrawal =>
    cases went
    refine invariant.idle rfl rfl rfl (fun _ => id) (fun m member => ?_) trivial
    obtain rfl | old := List.mem_cons.mp member
    · exact known
    · exact invariant.returned m old
  | unpausing keyHash =>
    cases went
    exact invariant.idle rfl rfl rfl (evict_none s.world _) invariant.returned trivial
  | ended status => cases went

theorem keyInvariant_preserved : (keyMachine hashApiKey).Preserves (evictsInTime hashApiKey)
    (KeyInvariant hashApiKey) := by
  intro s l s' invariant meets stepped
  cases l with
  | advance k =>
    obtain ⟨request, phase, w, next, found, went, rfl⟩ := advance_cases stepped
    obtain ⟨agrees, early⟩ := meets (request, phase) found
    exact invariant.advance found agrees early went
  | happen time =>
    rw [happen_cases stepped]
    have leads : s.world.Leads (s.world.tick time) := .of_eq rfl rfl
    refine ⟨invariant.ids, invariant.hashes,
      fun m member => (leads m (invariant.stands m member)).1, invariant.uncached,
      invariant.returned, fun request phase member => ?_⟩
    exact (invariant.known request phase member).other leads invariant.stands (fun _ => id)
      fun _ m member fresh => absurd member fresh

/-- A process that has just started, over tables whose keys and hashes are unique. -/
structure KeyState.Fresh (s : KeyState) : Prop where
  ids : (s.world.apiKeys.map ApiKeyRow.id).Nodup
  hashes : (s.world.apiKeys.map ApiKeyRow.keyHash).Nodup
  cache : ∀ keyHash, s.world.cache keyHash = none
  evicted : s.world.evicted = []
  returned : s.world.returned = []
  entering : ∀ request phase, (request, phase) ∈ s.calls → phase = .entering

theorem KeyInvariant.fresh (fresh : s.Fresh) : KeyInvariant hashApiKey s := by
  refine ⟨fresh.ids, fresh.hashes, ?_, ?_, ?_, fun request phase member => ?_⟩
  · simp [fresh.evicted]
  · simp [fresh.evicted]
  · simp [fresh.returned]
  · cases fresh.entering request phase member
    trivial

theorem KeyInvariant.hold (invariant : KeyInvariant hashApiKey s) :
    WithdrawalsHold hashApiKey s := by
  intro (request, phase) member withdrawal returned
  have known := invariant.known request phase member
  cases phase with
  | answered before workspace =>
    cases workspace with
    | none => cases returned
    | some workspace => exact (known rfl withdrawal returned).2
  | _ => cases returned

/-- A withdrawn key is refused where it is evicted in time: in every run in which the legacy
    column matches no key that is revoked or paused, and no lookup is about to store a key while a
    withdrawal in force evicts it, a lookup that begins when a revocation has returned, or a pause
    that is not resumed, authenticates nothing. -/
theorem withdrawals_hold (hashApiKey : Str → Str) (s s' : KeyState) (labels : List KeyLabel)
    (fresh : s.Fresh)
    (inTime : (keyMachine hashApiKey).Guarded (evictsInTime hashApiKey) s labels)
    (ran : (keyMachine hashApiKey).run s labels = some s') : WithdrawalsHold hashApiKey s' :=
  (keyInvariant_preserved.run _ (.fresh fresh) inTime ran).hold

/-- One key, two lookups of it and a pause. -/
def pausedKey : KeyState where
  world := {
    now := 0
    apiKeys := [{ id := "k1", workspaceId := "w1", keyHash := "h" }]
    workspaces := [{ id := "w1", plan := "cloud" }] }
  calls := [(.lookup "h", .entering), (.lookup "h", .entering),
    (.pause ⟨"w1", "u1", "owner"⟩ "k1", .entering)]

theorem pausedKey_fresh : pausedKey.Fresh := by
  refine ⟨by decide, by decide, fun _ => rfl, rfl, rfl, fun request phase member => ?_⟩
  simp only [pausedKey, List.mem_cons, Prod.mk.injEq, List.not_mem_nil, or_false] at member
  obtain ⟨_, rfl⟩ | ⟨_, rfl⟩ | ⟨_, rfl⟩ := member <;> rfl

def afterPause : List KeyLabel := [.advance 1, .advance 1, .advance 1]

/-- The pause comes when the first lookup has ended. -/
def pausedBetween : List KeyLabel :=
  ([.advance 0, .advance 0, .advance 0, .advance 2, .advance 2] : List KeyLabel) ++ afterPause

/-- The pause comes between the query of the first lookup and its store. -/
def pausedAcross : List KeyLabel :=
  [.advance 0, .advance 0, .advance 2, .advance 2, .advance 0, .advance 1]

theorem withdrawals_hold_between : WithdrawalsHold id
    (((keyMachine id).run pausedKey pausedBetween).get (by decide +kernel)) :=
  withdrawals_hold id pausedKey _ pausedBetween pausedKey_fresh (by decide +kernel)
    (Option.some_get _).symm

/-- A paused key is stored after its eviction, and the next lookup finds it there. -/
theorem paused_key_authenticates :
    ¬ ∀ (hashApiKey : Str → Str) (s s' : KeyState) (labels : List KeyLabel), s.Fresh →
      (keyMachine hashApiKey).run s labels = some s' → WithdrawalsHold hashApiKey s' := by
  intro claim
  have outcome : ((keyMachine id).run pausedKey pausedAcross).any fun s' =>
      decide (¬ WithdrawalsHold id s') := by
    decide +kernel
  obtain ⟨s', ran, violated⟩ := (Option.any_eq_true _ _).mp outcome
  exact of_decide_eq_true violated (claim id pausedKey s' pausedAcross pausedKey_fresh ran)

end

end BurnLens.Backend
