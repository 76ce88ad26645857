import BurnLens.Cloud.Sendable
import BurnLens.Library.Batch
import BurnLens.Library.Machine

/-! # Head-of-line blocking

The rows that wait for the cloud form a queue, and a cycle takes the batch at its head.  A row
whose payload the backend refuses holds back its batch and all rows behind it for good; that this
never happens comes down to what is inserted.
-/

namespace BurnLens.Cloud

open Library Cost Storage Backend

/-- What the sync relies on: the codec keeps a dictionary a dictionary, the data model reads
    datetimes with an offset in hours and minutes, and the backend takes a batch if and only if it
    validates. -/
structure Deployed (services : Services Reply) (lax : LaxMode) : Prop where
  codec : ∀ value, ∃ back, services.loads (services.dumps value) = some back ∧
    isDict back = isDict value
  datetimes : ∀ t : Timestamp, lax.datetime (.str t.isoformat) = wholeMinutes t
  accepts : ∀ records, records.all (satisfies lax) = true →
    ∃ r, services.post records = .response r ∧ r.status = 200 ∧ delivered r = true
  rejects : ∀ records, records.all (satisfies lax) = false →
    ∃ r, services.post records = .response r ∧ r.status = 422

/-- Does the row's own payload satisfy the backend's record? -/
def fits (services : Services Reply) (lax : LaxMode) (today : Date) (row : Row) : Bool :=
  match rowToPayload services.pricing services.loads today row.columns with
  | .ok payload => satisfies lax (wireRecord services.hmac payload)
  | .error _ => false

/-- The row is one that `insert_request` stored. -/
def Inserted (services : Services Reply) (record : LedgerRecord) (row : Row) : Prop :=
  record.Kept ∧ ∃ today eventId,
    record.columns services.pricing services.texts services.dumps today eventId = .ok row.columns

variable {services : Services Reply} {lax : LaxMode} {record : LedgerRecord} {row : Row}

/-! ## A stored row fits if its record is sendable -/

theorem pricingClassColumn_nonempty {pricing : PricingData} {today : Date} {pricingClass : Str}
    (filled : record.pricingClassColumn pricing today = .ok pricingClass) : pricingClass ≠ [] := by
  rw [LedgerRecord.pricingClassColumn] at filled
  have computed : ∀ source,
      pricing.pricingClassFor today record.provider record.model source = .ok pricingClass →
        pricingClass ≠ [] := by
    intro source filled
    simp only [PricingData.pricingClassFor, bind_eq_ok] at filled
    obtain ⟨priced, -, filled⟩ := filled
    split at filled
    · cases filled; decide
    · split at filled
      · cases filled; decide
      · cases filled; decide
  cases given : record.pricingClass with
  | none => rw [given] at filled; exact computed _ filled
  | some own =>
    rw [given] at filled
    cases own with
    | nil => exact computed _ filled
    | cons c own => cases filled; exact List.cons_ne_nil c own

theorem version_fits (pricing : PricingData) (fingerprint : Option Str) :
    (FieldType.optionalStr (some 128)).accepts lax
        (optionalText (record.pricingVersionColumn pricing fingerprint)) = true ↔
      ∀ version, record.pricingVersion = some version → version.length ≤ 128 := by
  unfold LedgerRecord.pricingVersionColumn
  cases given : record.pricingVersion with
  | some version => cases fingerprint <;> simp [optionalText, FieldType.accepts]
  | none =>
    cases fingerprint with
    | none => simp [optionalText, FieldType.accepts]
    | some fingerprint =>
      simp only [PricingData.getPricingVersion]
      cases bundled : pricing.updated (resolvePricingKey record.provider) with
      | none => simp [optionalText, FieldType.accepts]
      | some version => simpa [optionalText, FieldType.accepts] using pricing.versionLength _ _ bundled

theorem fingerprint_fits {pricing : PricingData} {today : Date} {fingerprint : Option Str}
    (filled : record.pricingFingerprintColumn pricing today = .ok fingerprint) :
    (FieldType.optionalStr (some 64)).accepts lax (optionalText fingerprint) = true ↔
      ∀ digest, record.pricingFingerprint = some digest → digest.length ≤ 64 := by
  rw [LedgerRecord.pricingFingerprintColumn] at filled
  have computed : ∀ fingerprint, pricing.pricingFingerprintFor today record.provider record.model
      record.inputTokens record.pricingVersion = .ok fingerprint →
        (FieldType.optionalStr (some 64)).accepts lax (optionalText fingerprint) = true := by
    intro fingerprint filled
    simp only [PricingData.pricingFingerprintFor, bind_eq_ok] at filled
    obtain ⟨row, -, filled⟩ := filled
    cases row with
    | none => cases filled; rfl
    | some row =>
      simp only [bind_eq_ok] at filled
      obtain ⟨rates, -, filled⟩ := filled
      cases filled
      simp [optionalText, FieldType.accepts, pricing.digestLength]
  cases given : record.pricingFingerprint with
  | none =>
    rw [given] at filled
    simpa using computed fingerprint filled
  | some digest =>
    rw [given] at filled
    cases digest with
    | nil => simpa using computed fingerprint filled
    | cons c digest =>
      cases filled
      simp [optionalText, FieldType.accepts]

theorem fits_iff (deployed : Deployed services lax) (inserted : Inserted services record row)
    (today : Date) : fits services lax today row = true ↔ Sendable services.texts lax record := by
  obtain ⟨kept, day, eventId, filled⟩ := inserted
  simp only [LedgerRecord.columns, bind_eq_ok] at filled
  obtain ⟨pricingClass, classed, fingerprint, digested, filled⟩ := filled
  obtain ⟨back, read, dict⟩ := deployed.codec record.tags
  have columns := (Except.ok.inj filled).symm
  have stored : ∀ {name : Str} {value : Json} (j : Nat), row.columns[j]? = some (name, value) →
      ∀ default, row.columns.getD name default = value := by
    intro name value j here default
    have distinct : (row.columns.map Prod.fst).Nodup := columns ▸ distinct_row
    rw [Fields.getD, Fields.get?_of_getElem? distinct here, Option.getD_some]
  have tags : row.columns.getD "tags" (.str "{}") = .str (services.dumps record.tags) :=
    stored 12 (by rw [columns]; rfl) _
  have written : row.columns.getD "pricing_class" .null = .str pricingClass :=
    stored 22 (by rw [columns]; rfl) _
  have labelled : (Json.str pricingClass).truthy = true := by
    simpa [Json.truthy] using pricingClassColumn_nonempty classed
  have payloadOf : rowToPayload services.pricing services.loads today row.columns =
      back.dict.map fun tags => payload row.columns tags (.str pricingClass) := by
    simp only [rowToPayload, tags, written, labelled, if_true, read, Option.getD_some]
    cases back.dict <;> rfl
  rw [fits, payloadOf]
  cases back with
  | obj fields =>
    show satisfies lax (wireRecord services.hmac (payload row.columns fields _)) = true ↔ _
    rw [columns, satisfies_row kept, deployed.datetimes, version_fits, fingerprint_fits digested]
    constructor
    · rintro ⟨timestamp, counts, segments, amounts, version, fingerprint⟩
      exact ⟨dict.symm, timestamp, counts, segments, amounts, version, fingerprint⟩
    · intro sendable
      exact ⟨sendable.timestamp, sendable.counts, sendable.segments, sendable.amounts,
        sendable.version, sendable.fingerprint⟩
  | _ =>
    constructor
    · rintro ⟨⟩
    · intro sendable
      rw [sendable.tags] at dict
      cases dict

/-! ## The queue of rows -/

def pending (rows : List Row) : List Row := rows.filter fun row => !row.synced

theorem pending_markSynced {rows : List Row} (distinct : (rows.map Row.id).Nodup) (limit : Nat) :
    pending (markSynced rows ((fetchUnsynced rows limit).map Row.id)) = (pending rows).drop limit := by
  have marked : ∀ ids : List Nat, pending (markSynced rows ids) =
      (pending rows).filter fun row => decide (row.id ∉ ids) := by
    intro ids
    induction rows with
    | nil => rfl
    | cons row rows inductionHypothesis =>
      have rest := inductionHypothesis (List.nodup_cons.mp distinct).2
      simp only [pending, markSynced, List.map_cons, List.filter_cons] at rest ⊢
      rw [rest]
      by_cases taken : row.id ∈ ids
      · cases row.synced <;> simp [taken]
      · cases waits : row.synced <;> simp [taken, waits]
  rw [marked]
  exact filter_keys_take (distinct.sublist (List.filter_sublist.map Row.id)) limit

/-- The ids are distinct, every row was inserted, and no back-off is on. -/
structure Queue (services : Services Reply) (s : SyncState) : Prop where
  numbered : ∀ row ∈ s.requests, row.id ≤ s.requests.length
  distinct : (s.requests.map Row.id).Nodup
  inserted : ∀ row ∈ s.requests, ∃ record, Inserted services record row
  ready : s.backoffUntil = 0

theorem pushBatch_deployed (deployed : Deployed services lax) {s : SyncState}
    (ready : s.backoffUntil = 0) {now : ℚ} (clock : 0 ≤ now) {records : List Fields}
    (some : records ≠ []) :
    pushBatch services now s records =
      (s, (records.map (wireRecord services.hmac)).all (satisfies lax)) := by
  have awake : ¬(now < s.backoffUntil ∨ records.isEmpty) := by
    simp [ready, clock, some]
  rw [pushBatch, if_neg awake]
  cases verdict : (records.map (wireRecord services.hmac)).all (satisfies lax) with
  | true =>
    obtain ⟨r, answered, accepted, read⟩ := deployed.accepts _ verdict
    simp only [answered, accepted, if_true, read]
  | false =>
    obtain ⟨r, answered, refused⟩ := deployed.rejects _ verdict
    simp [answered, refused]

theorem syncOutcomesOnce_frame (s : SyncState) (now : ℚ) :
    (syncOutcomesOnce services now s).1.requests = s.requests ∧
      (syncOutcomesOnce services now s).1.backoffUntil = s.backoffUntil := by
  rw [syncOutcomesOnce]
  split
  · exact ⟨rfl, rfl⟩
  · split <;> exact ⟨rfl, rfl⟩

theorem markSynced_frame (rows : List Row) (ids : List Nat) :
    (markSynced rows ids).map Row.id = rows.map Row.id ∧
      (markSynced rows ids).map Row.columns = rows.map Row.columns := by
  simp only [markSynced, List.map_map]
  constructor
  · apply List.map_congr_left
    intro row _
    simp only [Function.comp_apply]
    split <;> rfl
  · apply List.map_congr_left
    intro row _
    simp only [Function.comp_apply]
    split <;> rfl

/-- A batch either raises on one of its rows or goes out whole, and in both cases the backend gets
    to accept it if and only if each row fits. -/
theorem mapM_rowToPayload (today : Date) (rows : List Row) :
    match rows.mapM fun row => rowToPayload services.pricing services.loads today row.columns with
    | .error _ => rows.all (fits services lax today) = false
    | .ok records => records.length = rows.length ∧
        (records.map (wireRecord services.hmac)).all (satisfies lax) =
          rows.all (fits services lax today) := by
  induction rows with
  | nil => exact ⟨rfl, rfl⟩
  | cons row rows inductionHypothesis =>
    rw [List.mapM_cons, List.all_cons, fits]
    cases rowToPayload services.pricing services.loads today row.columns with
    | error error => rfl
    | ok payload =>
      cases sent : rows.mapM fun row =>
        rowToPayload services.pricing services.loads today row.columns with
      | error error =>
        rw [sent] at inductionHypothesis
        show (_ && rows.all _) = false
        rw [inductionHypothesis, Bool.and_false]
      | ok records =>
        rw [sent] at inductionHypothesis
        obtain ⟨lengths, verdict⟩ := inductionHypothesis
        refine ⟨congrArg (· + 1) lengths, ?_⟩
        show (satisfies lax _ && (records.map _).all _) = _
        rw [verdict]

/-- What one cycle does to the requests: the batch at the head leaves the queue if all of it
    fits, and nothing happens otherwise. -/
theorem syncOnce_requests (deployed : Deployed services lax) {s : SyncState}
    (ready : s.backoffUntil = 0) (today : Date) {now : ℚ} (clock : 0 ≤ now) :
    (syncOnce services today now s).1.backoffUntil = 0 ∧
      (syncOnce services today now s).1.requests =
        if (fetchUnsynced s.requests batchSize).all (fits services lax today) then
          markSynced s.requests ((fetchUnsynced s.requests batchSize).map Row.id)
        else s.requests := by
  obtain ⟨same, awake⟩ := @syncOutcomesOnce_frame services s now
  rw [ready] at awake
  rw [← same, syncOnce]
  generalize (syncOutcomesOnce services now s).1 = t at awake
  have verdict := @mapM_rowToPayload services lax today
    (fetchUnsynced t.requests batchSize)
  simp only [syncRequestsOnce]
  split
  · next none =>
    rw [List.isEmpty_iff.mp none]
    exact ⟨awake, by simp [markSynced]⟩
  · next some =>
    split
    · next raised =>
      rw [raised] at verdict
      exact ⟨awake, by simp [verdict]⟩
    · next records sent =>
      rw [sent] at verdict
      have nonempty : records ≠ [] := by
        rintro rfl
        exact some (List.isEmpty_iff.mpr (List.length_eq_zero_iff.mp verdict.1.symm))
      rw [pushBatch_deployed deployed awake clock nonempty, verdict.2]
      cases (fetchUnsynced t.requests batchSize).all (fits services lax today) with
      | true => exact ⟨awake, rfl⟩
      | false => exact ⟨awake, rfl⟩

theorem Queue.sync (deployed : Deployed services lax) {s : SyncState} (queue : Queue services s)
    (today : Date) {now : ℚ} (clock : 0 ≤ now) :
    Queue services (syncOnce services today now s).1 ∧
      pending (syncOnce services today now s).1.requests =
        takeBatch batchSize (fits services lax today) (pending s.requests) ∧
      (syncOnce services today now s).1.requests.map Row.columns =
        s.requests.map Row.columns := by
  obtain ⟨ready, requests⟩ := syncOnce_requests deployed queue.ready today clock
  generalize (syncOnce services today now s).1 = t at ready requests
  split at requests
  · next fitting =>
    obtain ⟨ids, columns⟩ := markSynced_frame s.requests
      ((fetchUnsynced s.requests batchSize).map Row.id)
    rw [← requests] at ids columns
    have lengths : t.requests.length = s.requests.length := by
      rw [← List.length_map (f := Row.id), ids, List.length_map]
    refine ⟨⟨?_, ids ▸ queue.distinct, ?_, ready⟩, ?_, columns⟩
    · intro row member
      have its : row.id ∈ s.requests.map Row.id := ids ▸ List.mem_map_of_mem member
      obtain ⟨row', member', same⟩ := List.mem_map.mp its
      rw [lengths, ← same]
      exact queue.numbered row' member'
    · intro row member
      have its : row.columns ∈ s.requests.map Row.columns := columns ▸ List.mem_map_of_mem member
      obtain ⟨row', member', same⟩ := List.mem_map.mp its
      obtain ⟨record, kept, day, eventId, filled⟩ := queue.inserted row' member'
      exact ⟨record, kept, day, eventId, same ▸ filled⟩
    · rw [requests, pending_markSynced queue.distinct]
      exact (takeBatch_fitting fitting).symm
  · next blocked =>
    refine ⟨⟨?_, ?_, ?_, ready⟩, ?_, by rw [requests]⟩
    · rw [requests]; exact queue.numbered
    · rw [requests]; exact queue.distinct
    · rw [requests]; exact queue.inserted
    · rw [requests]
      exact (takeBatch_blocked ((Bool.not_eq_true _).mp blocked)).symm

/-! ## Runs -/

inductive Event where
  | insert (today : Date) (fresh : Str) (record : LedgerRecord)
  | sync (today : Date) (now : ℚ)

/-- The table under `insert_request`, which may raise, and `_sync_once`, on a monotonic clock that
    does not start below 0. -/
def ledger (services : Services Reply) : Machine SyncState Event where
  step s
    | .insert today fresh record =>
      match insertRow services.pricing services.texts services.dumps today fresh s.requests record with
      | .ok rows => some { s with requests := rows }
      | .error _ => some s
    | .sync today now => if 0 ≤ now then some (syncOnce services today now s).1 else none

/-- Further calls of `_sync_once`, each on some day and at some time. -/
def syncCalls (services : Services Reply) (calls : List (Date × ℚ)) (s : SyncState) : SyncState :=
  calls.foldl (fun s call => (syncOnce services call.1 call.2 s).1) s

/-- After sufficiently many calls every row that fits has been marked, whatever other rows exist. -/
def Unblocked (services : Services Reply) (lax : LaxMode) (s : SyncState) : Prop :=
  ∃ n, ∀ calls : List (Date × ℚ), n ≤ calls.length → (∀ call ∈ calls, 0 ≤ call.2) →
    ∀ today, ∀ row ∈ (syncCalls services calls s).requests,
      fits services lax today row = true → row.synced = true

def AllFit (services : Services Reply) (lax : LaxMode) (s : SyncState) : Prop :=
  ∀ today, ∀ row ∈ s.requests, fits services lax today row = true

/-- A step that stores a row stores that of a sendable record. -/
def StoresSendable (services : Services Reply) (lax : LaxMode) (s : SyncState) : Event → Prop
  | .insert today fresh record =>
    ∀ rows, insertRow services.pricing services.texts services.dumps today fresh s.requests record =
      .ok rows → rows ≠ s.requests → Sendable services.texts lax record
  | .sync _ _ => True

structure Empty (s : SyncState) : Prop where
  requests : s.requests = []
  ready : s.backoffUntil = 0

theorem Queue.of_empty {s : SyncState} (empty : Empty s) : Queue services s := by
  obtain ⟨none, ready⟩ := empty
  refine ⟨?_, ?_, ?_, ready⟩
  · simp [none]
  · simp [none]
  · simp [none]

theorem Queue.insert {s : SyncState} (queue : Queue services s) {today : Date} {fresh : Str}
    {rows : List Row} (inserts : insertRow services.pricing services.texts services.dumps today fresh
      s.requests record = .ok rows) :
    Queue services { s with requests := rows } := by
  obtain ⟨rfl, _⟩ | ⟨kept, _, columns, filled, rfl⟩ := insertRow_ok inserts
  · exact queue
  · have above : ∀ row ∈ s.requests, row.id ≠ s.requests.length + 1 := by
      intro row member
      have := queue.numbered row member
      omega
    refine ⟨?_, ?_, ?_, queue.ready⟩
    · intro row member
      simp only [List.length_append, List.length_singleton]
      obtain stored | rfl := List.mem_append.mp member |>.imp_right List.mem_singleton.mp
      · have := queue.numbered row stored
        omega
      · exact Nat.le_refl _
    · simp only [List.map_append, List.map_cons, List.map_nil, List.nodup_append]
      refine ⟨queue.distinct, by simp, ?_⟩
      intro id earlier id' new
      obtain ⟨row, member, rfl⟩ := List.mem_map.mp earlier
      rw [List.mem_singleton.mp new]
      exact above row member
    · intro row member
      obtain stored | rfl := List.mem_append.mp member |>.imp_right List.mem_singleton.mp
      · exact queue.inserted row stored
      · exact ⟨record, kept, today, _, filled⟩

theorem queue_preserves (deployed : Deployed services lax) :
    (ledger services).Preserves (fun _ _ => True) (Queue services) := by
  intro s event s' queue _ stepped
  cases event with
  | insert today fresh record =>
    simp only [ledger] at stepped
    split at stepped
    · next rows inserts => cases stepped; exact queue.insert inserts
    · cases stepped; exact queue
  | sync today now =>
    simp only [ledger] at stepped
    split at stepped
    · next clock => cases stepped; exact (queue.sync deployed today clock).1
    · cases stepped

theorem fits_of_columns {row row' : Row} (same : row.columns = row'.columns) (today : Date) :
    fits services lax today row = fits services lax today row' := by
  rw [fits, fits, same]

/-- A step keeps the rows fitting exactly where it stores a sendable record. -/
theorem allFit_step (deployed : Deployed services lax) {s s' : SyncState} {event : Event}
    (queue : Queue services s) (stepped : (ledger services).step s event = some s') :
    AllFit services lax s' ↔ AllFit services lax s ∧ StoresSendable services lax s event := by
  cases event with
  | insert today fresh record =>
    simp only [ledger] at stepped
    split at stepped
    · next rows inserts =>
      cases stepped
      have only : ∀ rows', insertRow services.pricing services.texts services.dumps today fresh
          s.requests record = .ok rows' → rows' = rows := by
        intro rows' again
        rw [inserts] at again
        exact (Except.ok.inj again).symm
      obtain ⟨rfl, _⟩ | ⟨kept, _, columns, filled, rfl⟩ := insertRow_ok inserts
      · constructor
        · exact fun all => ⟨all, fun rows' again changed => absurd (only rows' again) changed⟩
        · exact fun both => both.1
      · have judged : ∀ day, fits services lax day { id := s.requests.length + 1, columns } = true ↔
            Sendable services.texts lax record :=
          fits_iff deployed ⟨kept, today, _, filled⟩
        constructor
        · intro all
          refine ⟨fun day row member => all day row (List.mem_append_left _ member), ?_⟩
          intro _ _ _
          exact (judged 0).mp (all 0 _ (List.mem_append_right _ (List.mem_singleton_self _)))
        · rintro ⟨all, sendable⟩ day row member
          obtain stored | rfl := List.mem_append.mp member |>.imp_right List.mem_singleton.mp
          · exact all day row stored
          · exact (judged day).mpr (sendable _ inserts (by simp))
    · next error raised =>
      cases stepped
      constructor
      · intro all
        refine ⟨all, fun rows inserts => ?_⟩
        rw [raised] at inserts
        cases inserts
      · exact fun both => both.1
  | sync today now =>
    simp only [ledger] at stepped
    split at stepped
    · next clock =>
      cases stepped
      have columns := (queue.sync deployed today clock).2.2
      have moved : ∀ {a b : List Row}, a.map Row.columns = b.map Row.columns →
          (∀ day, ∀ row ∈ a, fits services lax day row = true) →
          ∀ day, ∀ row ∈ b, fits services lax day row = true := by
        intro a b same all day row member
        have its : row.columns ∈ a.map Row.columns := same ▸ List.mem_map_of_mem member
        obtain ⟨row', member', equal⟩ := List.mem_map.mp its
        rw [← fits_of_columns equal]
        exact all day row' member'
      exact ⟨fun all => ⟨moved columns all, trivial⟩, fun both => moved columns.symm both.1⟩
    · cases stepped

/-- All rows of a run's table fit if and only if each step has stored sendable records only. -/
theorem allFit_run (deployed : Deployed services lax) {s s' : SyncState} {events : List Event}
    (queue : Queue services s) (ran : (ledger services).run s events = some s') :
    AllFit services lax s' ↔
      AllFit services lax s ∧ (ledger services).Guarded (StoresSendable services lax) s events := by
  induction events generalizing s with
  | nil => cases ran; simp [Machine.Guarded]
  | cons event events inductionHypothesis =>
    obtain ⟨t, stepped, rest⟩ := (ledger services).run_cons_some ran
    rw [inductionHypothesis (queue_preserves deployed s event t queue trivial stepped) rest,
      allFit_step deployed queue stepped, Machine.Guarded, and_assoc]
    apply and_congr_right'
    apply and_congr_right'
    constructor
    · intro guarded t' same
      rw [stepped] at same
      cases same
      exact guarded
    · exact fun guarded => guarded t stepped

/-! ## What further calls deliver -/

theorem fits_any_day (deployed : Deployed services lax) {s : SyncState} (queue : Queue services s)
    {row : Row} (member : row ∈ s.requests) (today day : Date) :
    fits services lax today row = fits services lax day row := by
  obtain ⟨record, inserted⟩ := queue.inserted row member
  rw [Bool.eq_iff_iff, fits_iff deployed inserted, fits_iff deployed inserted]

theorem Queue.syncCalls (deployed : Deployed services lax) {s : SyncState}
    (queue : Queue services s) (day : Date) {calls : List (Date × ℚ)}
    (clock : ∀ call ∈ calls, 0 ≤ call.2) :
    Queue services (syncCalls services calls s) ∧
      pending (Cloud.syncCalls services calls s).requests =
        (takeBatch batchSize (fits services lax day))^[calls.length] (pending s.requests) := by
  induction calls generalizing s with
  | nil => exact ⟨queue, rfl⟩
  | cons call calls inductionHypothesis =>
    obtain ⟨next, moved, -⟩ := queue.sync deployed call.1 (clock call (List.mem_cons_self ..))
    obtain ⟨last, rest⟩ := inductionHypothesis next fun later member =>
      clock later (List.mem_cons_of_mem _ member)
    refine ⟨last, rest.trans ?_⟩
    have agree : ∀ row ∈ pending s.requests,
        fits services lax call.1 row = fits services lax day row :=
      fun row member => fits_any_day deployed queue (List.mem_of_mem_filter member) _ _
    rw [moved, takeBatch_congr agree, List.length_cons, Function.iterate_succ_apply]

/-- The head of the line: the calls deliver every row that fits if and only if no such row is
    in a batch with, or behind, one that does not. -/
theorem unblocked_iff (deployed : Deployed services lax) {s : SyncState} (queue : Queue services s) :
    Unblocked services lax s ↔
      ∀ n, (((pending s.requests).drop (n * batchSize)).take batchSize).all
          (fits services lax 0) = false →
        ∀ row ∈ (pending s.requests).drop (n * batchSize), fits services lax 0 row = false := by
  rw [← delivered_iff (by decide : 0 < batchSize)]
  constructor
  · rintro ⟨n, synced⟩
    refine ⟨n, fun m later row waiting => ?_⟩
    have clock : ∀ call ∈ List.replicate m ((0, 0) : Date × ℚ), 0 ≤ call.2 := by
      intro call member
      rw [List.eq_of_mem_replicate member]
    have calls := (queue.syncCalls deployed 0 clock).2
    rw [List.length_replicate] at calls
    rw [← calls] at waiting
    obtain ⟨member, unsynced⟩ := List.mem_filter.mp waiting
    by_contra fitting
    rw [synced _ (by simpa using later) clock 0 row member (by simpa using fitting)] at unsynced
    cases unsynced
  · rintro ⟨n, gone⟩
    refine ⟨n, fun calls enough clock today row member fitting => ?_⟩
    obtain ⟨last, waiting⟩ := queue.syncCalls deployed 0 clock
    by_contra unsynced
    have its : row ∈ pending (syncCalls services calls s).requests :=
      List.mem_filter.mpr ⟨member, by simpa using unsynced⟩
    rw [waiting] at its
    rw [fits_any_day deployed last member today 0, gone _ enough row its] at fitting
    cases fitting

theorem unblocked_of_allFit (deployed : Deployed services lax) {s : SyncState}
    (queue : Queue services s) (all : AllFit services lax s) : Unblocked services lax s := by
  rw [unblocked_iff deployed queue]
  intro n refused
  have whole : (((pending s.requests).drop (n * batchSize)).take batchSize).all
      (fits services lax 0) = true := by
    apply List.all_eq_true.mpr
    intro row member
    exact all 0 row (List.mem_of_mem_filter (List.mem_of_mem_drop (List.mem_of_mem_take member)))
  rw [whole] at refused
  cases refused

/-- The sync is free of head-of-line blocking, and every row has a payload that fits, if and only
    if each record that the run stores is sendable. -/
theorem cloud_sync_unblocked (deployed : Deployed services lax) {s s' : SyncState}
    (empty : Empty s) {events : List Event} (ran : (ledger services).run s events = some s') :
    (Unblocked services lax s' ∧ AllFit services lax s') ↔
      (ledger services).Guarded (StoresSendable services lax) s events := by
  have queue := @Queue.of_empty services s empty
  have last : Queue services s' :=
    (queue_preserves deployed).run (ledger services) queue ((ledger services).guarded_trivial s events) ran
  have none : AllFit services lax s := by
    intro today row member
    rw [empty.requests] at member
    cases member
  rw [and_iff_right_of_imp (unblocked_of_allFit deployed last), allFit_run deployed queue ran,
    and_iff_right none]

/-! ## A request of half a millisecond more -/

/-- The lengths of the texts of datetimes, naive or with an offset in hours and minutes. -/
def demoLax : LaxMode where
  datetime
    | .str s => s.length ∈ [19, 25, 26, 32]
    | _ => false
  integer _ := false
  number _ := false

def demoServices : Services Reply where
  pricing := noPricing
  texts := .unread fun _ => "0"
  dumps
    | .obj _ => "{}"
    | _ => "null"
  loads text := if text = "{}" then some (.obj []) else some .null
  hmac _ := []
  post records := .response
    (if records.all (satisfies demoLax) then { status := 200 } else { status := 422 })
  postOutcomes _ := .httpError

theorem length_isoformat (t : DateTime) : t.isoformat.length =
    19 + (if t.microsecond = 0 then 0 else 7) + (formatOffset t.utcoffset).length := by
  simp only [DateTime.isoformat, DateTime.suffix, List.length_append, List.length_cons,
    length_numeral]
  split
  · simp only [List.length_nil]; omega
  · simp only [List.length_cons, length_numeral]; omega

/-- Six characters where the offset is in whole minutes, and nine or more elsewhere. -/
theorem length_formatOffset (offset : Int) :
    (formatOffset offset).length = 6 ∧ offset % 60000000 = 0 ∨
      ((formatOffset offset).length = 9 ∨ (formatOffset offset).length = 16) ∧
        offset % 60000000 ≠ 0 := by
  simp only [formatOffset, List.length_append, List.length_cons, length_numeral]
  split
  · next whole =>
    left
    exact ⟨by simp, by omega⟩
  · next fraction =>
    right
    refine ⟨?_, by omega⟩
    simp only [List.length_append, List.length_cons, length_numeral]
    split <;> simp [length_numeral]

theorem demo_datetimes (t : Timestamp) :
    demoLax.datetime (.str t.isoformat) = wholeMinutes t := by
  cases t with
  | aware t =>
    have length := length_isoformat t
    simp only [demoLax, Timestamp.isoformat, wholeMinutes, decide_eq_decide, List.mem_cons,
      List.not_mem_nil, or_false]
    have offset := length_formatOffset t.utcoffset
    split at length <;> omega
  | naive t =>
    have length := length_isoformat t
    simp only [demoLax, Timestamp.isoformat, wholeMinutes, decide_eq_true_eq, List.length_take,
      List.mem_cons, List.not_mem_nil, or_false]
    split at length <;> omega

theorem demo_deployed : Deployed demoServices demoLax where
  codec value := by
    cases value with
    | obj fields => exact ⟨.obj [], rfl, rfl⟩
    | _ => exact ⟨.null, rfl, rfl⟩
  datetimes := demo_datetimes
  accepts records valid := ⟨{ status := 200 }, by simp only [demoServices, valid, if_true], rfl, rfl⟩
  rejects records invalid := ⟨{ status := 422 }, by simp only [demoServices, invalid, Bool.false_eq_true, if_false], rfl⟩

def demoTime : DateTime := marchMoment.toDateTime

def demoRecord (eventId : Str) (durationMs : ℚ) : LedgerRecord where
  eventId := eventId
  provider := "openai"
  model := .str "gpt-4o"
  durationMs := .float (.fin durationMs)
  timestamp := .aware demoTime

theorem demo_sendable (eventId : Str) : Sendable demoServices.texts demoLax (demoRecord eventId 12) where
  tags := rfl
  timestamp := rfl
  counts := by
    show ∀ value ∈ countsOf (demoRecord [] 12), _
    decide +kernel
  segments := by
    show ∀ value ∈ segmentsOf (demoRecord [] 12), _
    decide +kernel
  amounts := by
    show ∀ value ∈ [(demoRecord [] 12).costUsd, (demoRecord [] 12).cacheSavedUsd], _
    decide +kernel
  version := nofun
  fingerprint := nofun

theorem demo_unsendable (eventId : Str) :
    ¬ Sendable demoServices.texts demoLax (demoRecord eventId (25 / 2)) := by
  intro sendable
  have fraction := sendable.counts (.float (.fin (25 / 2))) (by simp [countsOf, demoRecord])
  revert fraction
  decide +kernel

def demoRow (id : Nat) (eventId : Str) (durationMs : ℚ) : Row where
  id := id
  columns := (demoRecord eventId durationMs).row demoServices.texts demoServices.dumps eventId
    "unpriced" none none

def demoTable (durationMs : ℚ) : SyncState where
  requests := [demoRow 1 "a" durationMs, demoRow 2 "b" 12]

theorem demo_run (durationMs : ℚ) :
    (ledger demoServices).run { requests := [] }
      [.insert 0 [] (demoRecord "a" durationMs), .insert 0 [] (demoRecord "b" 12)] =
        some (demoTable durationMs) := by
  rfl

theorem demo_inserted (id : Nat) (eventId : Str) (durationMs : ℚ) :
    Inserted demoServices (demoRecord eventId durationMs) (demoRow id eventId durationMs) where
  left := {
    bindable := by simp [demoRecord, RequestRecord.required, bindable]
    complete := by simp [demoRecord, RequestRecord.required, bindsNull]
    requestedModel := rfl }
  right := ⟨0, eventId, rfl⟩

theorem demo_fits (id : Nat) (eventId : Str) (today : Date) :
    fits demoServices demoLax today (demoRow id eventId 12) = true :=
  (fits_iff demo_deployed (demo_inserted id eventId 12) today).mpr (demo_sendable eventId)

theorem demo_refused (id : Nat) (eventId : Str) (today : Date) :
    fits demoServices demoLax today (demoRow id eventId (25 / 2)) = false := by
  rw [← Bool.not_eq_true, fits_iff demo_deployed (demo_inserted id eventId (25 / 2)) today]
  exact demo_unsendable eventId

theorem demo_empty : Empty { requests := [] } := ⟨rfl, rfl⟩

/-- One row of 12.5 ms keeps the row behind it from ever leaving. -/
theorem fraction_blocks_line : ∃ s,
    (ledger demoServices).run { requests := [] }
      [.insert 0 [] (demoRecord "a" (25 / 2)), .insert 0 [] (demoRecord "b" 12)] = some s ∧
    ¬ Unblocked demoServices demoLax s ∧ ¬ AllFit demoServices demoLax s := by
  refine ⟨_, demo_run (25 / 2), ?_, ?_⟩
  · have queue : Queue demoServices (demoTable (25 / 2)) :=
      (queue_preserves demo_deployed).run (ledger demoServices) (Queue.of_empty demo_empty)
        ((ledger demoServices).guarded_trivial _ _) (demo_run (25 / 2))
    rw [unblocked_iff demo_deployed queue]
    intro delivered
    have last := delivered 0 (by
      show (fits demoServices demoLax 0 (demoRow 1 "a" (25 / 2)) && _) = false
      rw [demo_refused, Bool.false_and]) (demoRow 2 "b" 12) (by
        show _ ∈ [demoRow 1 "a" (25 / 2), demoRow 2 "b" 12]
        simp)
    rw [demo_fits] at last
    cases last
  · intro all
    have first := all 0 (demoRow 1 "a" (25 / 2)) (List.mem_cons_self ..)
    rw [demo_refused] at first
    cases first

theorem cloud_sync_unblocked_whole :
    (Unblocked demoServices demoLax (demoTable 12) ∧ AllFit demoServices demoLax (demoTable 12)) ↔
      (ledger demoServices).Guarded (StoresSendable demoServices demoLax) { requests := [] }
        [.insert 0 [] (demoRecord "a" 12), .insert 0 [] (demoRecord "b" 12)] :=
  cloud_sync_unblocked demo_deployed demo_empty (demo_run 12)

end BurnLens.Cloud
