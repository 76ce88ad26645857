import BurnLens.Economics.Conservation

/-! # Local economics against the backend's

Over the outcomes that `insert_outcome`, `reconcile_derived_outcome` and `correct_outcome` leave,
and any requests: when the two databases report the same, and each outcome with its cost.
-/

namespace BurnLens.Economics

open Library Storage Cloud

/-! ## The writers -/

/-- Their times are datetimes, of which the table holds the text. -/
inductive Write where
  | insert (outcome : Outcome) (eventTime : DateTime)
  | reconcile (outcome : Outcome) (eventTime : DateTime)
  | correct (outcomeId : Str) (status : OutcomeStatus) (eventTime : Option DateTime)

def write (rows : List OutcomeRow) : Write → List OutcomeRow
  | .insert outcome eventTime =>
    (insertOutcome rows { outcome with eventTime := eventTime.isoformat }).1
  | .reconcile outcome eventTime =>
    (reconcileDerivedOutcome rows { outcome with eventTime := eventTime.isoformat }).1
  | .correct outcomeId status eventTime =>
    (correctOutcome rows outcomeId status (eventTime.map DateTime.isoformat)).1

def recorded (writes : List Write) : List OutcomeRow := writes.foldl write []

def Dated (row : OutcomeRow) : Prop := ∃ t : DateTime, row.eventTime = t.isoformat

theorem dated_append {rows : List OutcomeRow} (dated : ∀ row ∈ rows, Dated row)
    (outcome : Outcome) (t : DateTime) :
    ∀ row ∈ appendOutcome rows { outcome with eventTime := t.isoformat }, Dated row := by
  intro row member
  obtain before | new := List.mem_append.mp member
  · exact dated row before
  · obtain rfl := List.mem_singleton.mp new
    exact ⟨t, rfl⟩

theorem dated_update {rows : List OutcomeRow} (dated : ∀ row ∈ rows, Dated row)
    {outcomeId : Str} {change : OutcomeRow → OutcomeRow}
    (changed : ∀ row ∈ rows, Dated (change row)) :
    ∀ row ∈ updateOutcome rows outcomeId change, Dated row := by
  intro row member
  obtain ⟨old, stored, rfl⟩ := List.mem_map.mp member
  split
  · exact changed old stored
  · exact dated old stored

theorem dated_write {rows : List OutcomeRow} (dated : ∀ row ∈ rows, Dated row)
    (w : Write) : ∀ row ∈ write rows w, Dated row := by
  cases w with
  | insert outcome t =>
    simp only [write, insertOutcome]
    split
    · exact dated_append dated outcome t
    · exact dated
  | reconcile outcome t =>
    simp only [write, reconcileDerivedOutcome]
    split
    · exact dated_append dated outcome t
    · split
      · exact dated
      · exact dated_update dated fun _ _ => ⟨t, rfl⟩
  | correct outcomeId status eventTime =>
    simp only [write, correctOutcome]
    split
    · exact dated
    · next current found =>
      apply dated_update dated
      intro row _
      obtain ⟨old, its⟩ := dated current (List.mem_of_find?_eq_some found)
      cases eventTime with
      | none => exact ⟨old, its⟩
      | some t =>
        show ∃ t', (if t.isoformat.isEmpty then current.eventTime else t.isoformat) = _
        split
        · exact ⟨old, its⟩
        · exact ⟨t, rfl⟩

/-- Whatever was written, the times in the table are texts that `isoformat` wrote. -/
theorem dated_recorded (writes : List Write) : ∀ row ∈ recorded writes, Dated row := by
  have run : ∀ rows, (∀ row ∈ rows, Dated row) →
      ∀ row ∈ writes.foldl write rows, Dated row := by
    induction writes with
    | nil => exact fun _ dated => dated
    | cons w writes inductionHypothesis =>
      exact fun rows dated => inductionHypothesis (write rows w) (dated_write dated w)
  exact run [] (by simp)

/-! ## Texts and instants -/

/-- The texts of two datetimes are ordered as they are. -/
def InOrder (a b : DateTime) : Prop := textLe a b = true ↔ a.instant ≤ b.instant

instance (a b : DateTime) : Decidable (InOrder a b) := inferInstanceAs (Decidable (_ ↔ _))

/-- `julianday` finds the outcome inside the window as the instants do. -/
def Resolved (clock : JulianClock) (windowSeconds : Nat) (eventTime ts : DateTime) : Prop :=
  clock.julianWithin windowSeconds eventTime ts = true ↔
    eventTime.instant < ts.instant + windowSeconds * 1000000

theorem suffix_lt_of_utc {a b : DateTime} (first : a.utcoffset = 0) (second : b.utcoffset = 0) :
    a.suffix < b.suffix ↔ a.microsecond < b.microsecond := by
  have plain : formatOffset 0 = '+' :: "00:00".toList := by decide
  simp only [DateTime.suffix, first, second, plain]
  split
  · next zero =>
    split
    · next zero' => simp [zero, zero']
    · next some' =>
      simp only [List.nil_append, List.cons_append, zero]
      exact iff_of_true (List.Lex.rel (by decide)) (Nat.pos_of_ne_zero some')
  · next some =>
    split
    · next zero' =>
      simp only [List.nil_append, List.cons_append, zero']
      exact iff_of_false (DateTime.not_cons_lt_cons (by decide) _ _) (Nat.not_lt_zero _)
    · simp only [List.cons_append, List.cons_lt_cons_self]
      rw [numeral_append_lt a.microsecondRange b.microsecondRange]
      simp

theorem inOrder_of_utc {a b : DateTime} (first : a.utcoffset = 0) (second : b.utcoffset = 0) :
    InOrder a b := by
  have range := a.microsecondRange
  have range' := b.microsecondRange
  rw [InOrder, textLe, Bool.not_eq_true', decide_eq_false_iff_not, DateTime.isoformat_lt_iff,
    suffix_lt_of_utc second first]
  simp only [DateTime.instant, DateTime.wallClock, first, second]
  omega

/-- Whatever is not within two milliseconds of the end of the window is resolved. -/
theorem resolved_of_apart {clock : JulianClock} {windowSeconds : Nat} {eventTime ts : DateTime}
    (minutes : eventTime.utcoffset % 60000000 = 0) (minutes' : ts.utcoffset % 60000000 = 0)
    (apart : 2000 ≤ |eventTime.instant - ts.instant - windowSeconds * 1000000|) :
    Resolved clock windowSeconds eventTime ts := by
  have near := abs_lt.mp (clock.near eventTime.instant)
  have near' := abs_lt.mp (clock.near ts.instant)
  rw [Resolved, JulianClock.julianWithin, JulianClock.julianMillis, JulianClock.julianMillis,
    if_pos minutes, if_pos minutes']
  simp only [decide_eq_true_eq]
  obtain above | below := le_abs.mp apart
  · exact iff_of_false (by omega) (by omega)
  · exact iff_of_true (by omega) (by omega)

/-! ## The condition -/

/-- The outcome, at `t`, lies inside the window of the request. -/
structure Claimant (windowSeconds : Nat) (r : Spend DateTime) (row : OutcomeRow) (t : DateTime) :
    Prop where
  time : row.eventTime = t.isoformat
  workflow : r.workflowId = some row.workflowId
  after : r.ts.instant ≤ t.instant
  within : t.instant < r.ts.instant + windowSeconds * 1000000

/-- What the queries compare and count of a ledger means the same to both databases.  Of the types
    and currencies only those in range matter, and of ties those between outcomes that one request
    in range may be charged to. -/
structure Comparable (clock : JulianClock) (requests : List (Spend DateTime))
    (rows : List OutcomeRow) (since : DateTime) (windowSeconds : Nat) : Prop where
  spends : ∀ r ∈ requests, r.workflowId ≠ none → InOrder since r.ts
  outcomes : ∀ row ∈ rows, ∀ t : DateTime, row.eventTime = t.isoformat → InOrder since t
  types : ∀ row ∈ rows, ∀ t : DateTime, row.eventTime = t.isoformat → since.instant ≤ t.instant →
    row.outcomeType = .null ∨ ∃ text : Str, row.outcomeType = .str text
  currencies : ∀ row ∈ rows, row.status = .accepted → ∀ t : DateTime,
    row.eventTime = t.isoformat → since.instant ≤ t.instant →
      ∀ currency, row.currency = some currency → ',' ∉ currency
  claims : ∀ r ∈ requests, since.instant ≤ r.ts.instant → ∀ row ∈ rows,
    r.workflowId = some row.workflowId → ∀ t : DateTime, row.eventTime = t.isoformat →
      InOrder r.ts t ∧ (r.ts.instant ≤ t.instant → Resolved clock windowSeconds t r.ts)
  typed : ∀ r ∈ requests, since.instant ≤ r.ts.instant → ∀ row ∈ rows, ∀ t : DateTime,
    Claimant windowSeconds r row t → row.outcomeType ≠ .null ∧ row.outcomeType ≠ .str []
  ties : ∀ r ∈ requests, since.instant ≤ r.ts.instant → ∀ row ∈ rows, ∀ row' ∈ rows,
    ∀ t t' : DateTime, Claimant windowSeconds r row t → Claimant windowSeconds r row' t' →
      InOrder t t' ∧ (t.instant = t'.instant →
        row.status = row'.status ∧ row.outcomeType = row'.outcomeType)

/-- What is claimed of the ledger: no cost is lost, an outcome is reported with its cost, and the
    two databases report the same rows. -/
structure Consistent (clock : JulianClock) (firsts : First textLe × First textLe)
    (firsts' : First instantLe × First instantLe) (minify jsonText : Json → Str)
    (requests : List (Spend DateTime)) (rows : List OutcomeRow) (since : DateTime)
    (windowSeconds : Nat) : Prop where
  conserves : Conserves (sqlite clock firsts.1 firsts.2 since windowSeconds)
    (getWorkflowEconomics clock firsts.1 firsts.2 minify requests rows since windowSeconds) requests
  conserves' : Conserves (postgres firsts'.1 firsts'.2 since windowSeconds)
    (outcomesSummary firsts'.1 firsts'.2 jsonText (requests.map Spend.mirrored)
      (rows.filterMap mirrored) since windowSeconds) (requests.map Spend.mirrored)
  together : ReportedTogether (sqlite clock firsts.1 firsts.2 since windowSeconds)
    (rows.filterMap (localEntry minify)) requests
  together' : ReportedTogether (postgres firsts'.1 firsts'.2 since windowSeconds)
    ((rows.filterMap mirrored).map (cloudEntry jsonText)) (requests.map Spend.mirrored)
  same : (getWorkflowEconomics clock firsts.1 firsts.2 minify requests rows since windowSeconds).Perm
    (outcomesSummary firsts'.1 firsts'.2 jsonText (requests.map Spend.mirrored)
      (rows.filterMap mirrored) since windowSeconds)

section

variable {minify jsonText : Json → Str} {requests : List (Spend DateTime)} {rows : List OutcomeRow}
  {since : DateTime} {windowSeconds : Nat} {entry : Entry DateTime}
  {firsts : First textLe × First textLe} {firsts' : First instantLe × First instantLe}
  {clock : JulianClock}

theorem textLe_iff {a b : DateTime} : textLe a b = true ↔ ¬ b.isoformat < a.isoformat := by
  rw [textLe, Bool.not_eq_true', decide_eq_false_iff_not]

theorem instantLe_iff {a b : Int} : instantLe a b = true ↔ a ≤ b := decide_eq_true_iff

theorem textLe_trans (a b c : DateTime) (first : textLe a b = true) (second : textLe b c = true) :
    textLe a c = true := by
  rw [textLe_iff] at first second ⊢
  exact List.le_trans first second

theorem sqlite_forward : (sqlite clock firsts.1 firsts.2 since windowSeconds).Forward := by
  intro ts eventTime counts claims
  have after : textLe ts eventTime = true := (Bool.and_eq_true_iff.mp claims).1
  exact textLe_trans since ts eventTime counts after

theorem postgres_forward : (postgres firsts'.1 firsts'.2 since windowSeconds).Forward := by
  intro ts eventTime counts claims
  have after : ts ≤ eventTime := of_decide_eq_true (Bool.and_eq_true_iff.mp claims).1
  exact instantLe_iff.mpr ((instantLe_iff.mp counts).trans after)

theorem mem_localEntries (dated : ∀ row ∈ rows, Dated row)
    (member : entry ∈ rows.filterMap (localEntry minify)) :
    ∃ row ∈ rows, row.eventTime = entry.eventTime.isoformat ∧
      entry = { workflowId := row.workflowId, status := row.status
                outcomeType := nullIfEmpty (jsonExtract minify row.outcomeType)
                eventTime := entry.eventTime, businessValue := row.businessValue
                currency := row.currency } := by
  obtain ⟨row, stored, read⟩ := List.mem_filterMap.mp member
  obtain ⟨t, text⟩ := dated row stored
  rw [localEntry, text, readIsoformat_isoformat] at read
  obtain rfl := Option.some.inj read
  exact ⟨row, stored, text, rfl⟩

/-- An entry of the backend's query is that of a row, at its instant. -/
theorem mem_cloudEntries (dated : ∀ row ∈ rows, Dated row) {entry : Entry Int}
    (member : entry ∈ (rows.filterMap mirrored).map (cloudEntry jsonText)) :
    ∃ row ∈ rows, ∃ t : DateTime, row.eventTime = t.isoformat ∧
      entry = { workflowId := row.workflowId, status := row.status
                outcomeType := nullIfEmpty (arrowText jsonText row.outcomeType)
                eventTime := t.instant, businessValue := row.businessValue
                currency := row.currency } := by
  obtain ⟨outcome, sent, rfl⟩ := List.mem_map.mp member
  obtain ⟨row, stored, read⟩ := List.mem_filterMap.mp sent
  obtain ⟨t, text⟩ := dated row stored
  rw [mirrored, text, readIsoformat_isoformat] at read
  obtain rfl := Option.some.inj read
  exact ⟨row, stored, t, text, rfl⟩

theorem scalar_alike {value : Json} (type : value = .null ∨ ∃ text : Str, value = .str text) :
    jsonExtract minify value = arrowText jsonText value := by
  obtain rfl | ⟨text, rfl⟩ := type
  · rfl
  · rfl

theorem nullIfEmpty_text {text : Str} (some : text ≠ []) :
    nullIfEmpty (Option.some (.text text)) = Option.some (.text text) := by
  have other : Option.some (Scalar.text text) ≠ Option.some (.text []) := by simpa using some
  rw [nullIfEmpty, if_neg other]

/-- In range the rows that the backend has are the local ones, at their instants. -/
theorem mirrored_entries (dated : ∀ row ∈ rows, Dated row)
    (comparable : Comparable clock requests rows since windowSeconds) :
    (postgres firsts'.1 firsts'.2 since windowSeconds).inRange
        ((rows.filterMap mirrored).map (cloudEntry jsonText)) =
      ((sqlite clock firsts.1 firsts.2 since windowSeconds).inRange
        (rows.filterMap (localEntry minify))).map (Entry.at DateTime.instant) := by
  rw [List.map_filterMap, Dialect.inRange, Dialect.inRange, List.filter_filterMap,
    List.filter_filterMap, List.map_filterMap]
  apply List.filterMap_congr
  intro row member
  obtain ⟨t, text⟩ := dated row member
  have order := comparable.outcomes row member t text
  have types := comparable.types row member t text
  have cloud : (mirrored row).map (cloudEntry jsonText) =
      some { workflowId := row.workflowId, status := row.status
             outcomeType := nullIfEmpty (arrowText jsonText row.outcomeType)
             eventTime := t.instant, businessValue := row.businessValue
             currency := row.currency } := by
    rw [mirrored, text, readIsoformat_isoformat]
    rfl
  have here : localEntry minify row =
      some { workflowId := row.workflowId, status := row.status
             outcomeType := nullIfEmpty (jsonExtract minify row.outcomeType)
             eventTime := t, businessValue := row.businessValue, currency := row.currency } := by
    rw [localEntry, text, readIsoformat_isoformat]
    rfl
  have counts : textLe since t = decide (since.instant ≤ t.instant) :=
    Bool.eq_iff_iff.mpr (order.trans decide_eq_true_iff.symm)
  rw [cloud, here]
  simp only [sqlite, postgres, instantLe, Option.filter_some, counts]
  by_cases inRange : since.instant ≤ t.instant
  · simp only [inRange, decide_true, if_true, Option.map_some, Entry.at,
      @scalar_alike minify jsonText _ (types inRange)]
  · simp [inRange]

/-- Where the request is in range both databases find the same outcomes for it. -/
theorem claims_alike (comparable : Comparable clock requests rows since windowSeconds)
    {r : Spend DateTime} (request : r ∈ requests) (inRange : since.instant ≤ r.ts.instant)
    {row : OutcomeRow} (stored : row ∈ rows) (workflow : r.workflowId = some row.workflowId)
    {t : DateTime} (text : row.eventTime = t.isoformat) :
    (textLe r.ts t && clock.julianWithin windowSeconds t r.ts) =
      (decide (r.ts.instant ≤ t.instant) &&
        decide (t.instant < r.ts.instant + windowSeconds * 1000000)) := by
  obtain ⟨inOrder, resolved⟩ := comparable.claims r request inRange row stored workflow t text
  rw [Bool.eq_iff_iff.mpr (inOrder.trans decide_eq_true_iff.symm)]
  by_cases after : r.ts.instant ≤ t.instant
  · rw [Bool.eq_iff_iff.mpr ((resolved after).trans decide_eq_true_iff.symm)]
  · rw [decide_eq_false after, Bool.false_and, Bool.false_and]

theorem inRange_of_counts (comparable : Comparable clock requests rows since windowSeconds)
    {r : Spend DateTime} (request : r ∈ requests) {workflowId : Str}
    (tagged : r.workflowId = some workflowId) (counts : textLe since r.ts = true) :
    since.instant ≤ r.ts.instant :=
  (comparable.spends r request (by simp [tagged])).mp counts

/-- What the local query finds for a request in range is a claimant of it. -/
theorem claimant_of_sqlite (dated : ∀ row ∈ rows, Dated row)
    (comparable : Comparable clock requests rows since windowSeconds) {r : Spend DateTime}
    (request : r ∈ requests) (counts : textLe since r.ts = true) {workflowId : Str}
    (tagged : r.workflowId = some workflowId)
    (claimant : entry ∈ (sqlite clock firsts.1 firsts.2 since windowSeconds).claimants
      (rows.filterMap (localEntry minify)) workflowId r.ts) :
    ∃ row ∈ rows, Claimant windowSeconds r row entry.eventTime ∧ entry.status = row.status ∧
      entry.outcomeType = nullIfEmpty (jsonExtract minify row.outcomeType) := by
  obtain ⟨member, its, claims⟩ := mem_claimants.mp claimant
  obtain ⟨row, stored, text, read⟩ := mem_localEntries dated member
  have workflow : r.workflowId = some row.workflowId := by rw [tagged, ← its, read]
  have inRange := inRange_of_counts comparable request tagged counts
  obtain ⟨after, within⟩ := Bool.and_eq_true_iff.mp
    ((claims_alike comparable request inRange stored workflow text).symm.trans claims)
  refine ⟨row, stored, ⟨text, workflow, of_decide_eq_true after, of_decide_eq_true within⟩, ?_, ?_⟩
  · rw [read]
  · rw [read]

theorem claimant_of_postgres (dated : ∀ row ∈ rows, Dated row) {r : Spend DateTime}
    {workflowId : Str} (tagged : r.workflowId = some workflowId) {entry : Entry Int}
    (claimant : entry ∈ (postgres firsts'.1 firsts'.2 since windowSeconds).claimants
      ((rows.filterMap mirrored).map (cloudEntry jsonText)) workflowId r.ts.instant) :
    ∃ row ∈ rows, ∃ t, Claimant windowSeconds r row t ∧ entry.eventTime = t.instant ∧
      entry.status = row.status ∧
        entry.outcomeType = nullIfEmpty (arrowText jsonText row.outcomeType) := by
  obtain ⟨member, its, claims⟩ := mem_claimants.mp claimant
  obtain ⟨row, stored, t, text, rfl⟩ := mem_cloudEntries dated member
  obtain ⟨after, within⟩ := Bool.and_eq_true_iff.mp claims
  exact ⟨row, stored, t,
    ⟨text, tagged.trans (congrArg some its.symm), of_decide_eq_true after,
      of_decide_eq_true within⟩, rfl, rfl, rfl⟩

theorem typed_of_claimant (comparable : Comparable clock requests rows since windowSeconds)
    {r : Spend DateTime} (request : r ∈ requests) (inRange : since.instant ≤ r.ts.instant)
    {row : OutcomeRow} (stored : row ∈ rows) {t : DateTime}
    (claimant : Claimant windowSeconds r row t) :
    ∃ text : Str, text ≠ [] ∧ row.outcomeType = .str text := by
  obtain ⟨known, some⟩ := comparable.typed r request inRange row stored t claimant
  obtain null | ⟨text, its⟩ :=
    comparable.types row stored t claimant.time (inRange.trans claimant.after)
  · exact absurd null known
  · exact ⟨text, fun empty => some (its.trans (congrArg Json.str empty)), its⟩

theorem sqlite_alike (dated : ∀ row ∈ rows, Dated row)
    (comparable : Comparable clock requests rows since windowSeconds) :
    TiesAlike (sqlite clock firsts.1 firsts.2 since windowSeconds)
      (rows.filterMap (localEntry minify)) requests := by
  intro r request counts workflowId tagged e member e' member' le le'
  have inRange := inRange_of_counts comparable request tagged counts
  obtain ⟨row, stored, claimant, status, type⟩ :=
    claimant_of_sqlite dated comparable request counts tagged member
  obtain ⟨row', stored', claimant', status', type'⟩ :=
    claimant_of_sqlite dated comparable request counts tagged member'
  have ties := comparable.ties r request inRange
  obtain ⟨order, alike⟩ := ties row stored row' stored' _ _ claimant claimant'
  obtain ⟨order', _⟩ := ties row' stored' row stored _ _ claimant' claimant
  have same := alike (le_antisymm (order.mp le) (order'.mp le'))
  rw [status, status', type, type', same.1, same.2]
  exact ⟨rfl, rfl⟩

theorem postgres_alike (dated : ∀ row ∈ rows, Dated row)
    (comparable : Comparable clock requests rows since windowSeconds) :
    TiesAlike (postgres firsts'.1 firsts'.2 since windowSeconds)
      ((rows.filterMap mirrored).map (cloudEntry jsonText)) (requests.map Spend.mirrored) := by
  intro r' request' counts workflowId tagged e member e' member' le le'
  obtain ⟨r, request, rfl⟩ := List.mem_map.mp request'
  obtain ⟨row, stored, t, claimant, time, status, type⟩ := claimant_of_postgres dated tagged member
  obtain ⟨row', stored', t', claimant', time', status', type'⟩ :=
    claimant_of_postgres dated tagged member'
  obtain ⟨_, alike⟩ := comparable.ties r request (instantLe_iff.mp counts) row stored row' stored'
    t t' claimant claimant'
  rw [time, time'] at le le'
  have same := alike (le_antisymm (instantLe_iff.mp le) (instantLe_iff.mp le'))
  rw [status, status', type, type', same.1, same.2]
  exact ⟨rfl, rfl⟩

theorem sqlite_together (dated : ∀ row ∈ rows, Dated row)
    (comparable : Comparable clock requests rows since windowSeconds) :
    ReportedTogether (sqlite clock firsts.1 firsts.2 since windowSeconds)
      (rows.filterMap (localEntry minify)) requests := by
  apply (reported_together_iff (sqlite_alike dated comparable)).mpr
  intro r request counts e charged _
  obtain ⟨workflowId, tagged, claimant⟩ := charged.claimant
  obtain ⟨row, stored, claimant, _, type⟩ :=
    claimant_of_sqlite dated comparable request counts tagged claimant
  have inRange := inRange_of_counts comparable request tagged counts
  obtain ⟨text, some, its⟩ := typed_of_claimant comparable request inRange stored claimant
  rw [type, its, jsonExtract, nullIfEmpty_text some]
  simp

theorem postgres_together (dated : ∀ row ∈ rows, Dated row)
    (comparable : Comparable clock requests rows since windowSeconds) :
    ReportedTogether (postgres firsts'.1 firsts'.2 since windowSeconds)
      ((rows.filterMap mirrored).map (cloudEntry jsonText)) (requests.map Spend.mirrored) := by
  apply (reported_together_iff (postgres_alike dated comparable)).mpr
  intro r' request' counts e charged _
  obtain ⟨r, request, rfl⟩ := List.mem_map.mp request'
  obtain ⟨workflowId, tagged, claimant⟩ := charged.claimant
  obtain ⟨row, stored, t, claimant, _, _, type⟩ := claimant_of_postgres dated tagged claimant
  obtain ⟨text, some, its⟩ :=
    typed_of_claimant comparable request (instantLe_iff.mp counts) stored claimant
  rw [type, its, arrowText, nullIfEmpty_text some]
  simp

/-- On the outcomes in range the two databases compare the times alike. -/
theorem agrees_of_comparable (dated : ∀ row ∈ rows, Dated row)
    (comparable : Comparable clock requests rows since windowSeconds) :
    Agrees DateTime.instant (sqlite clock firsts.1 firsts.2 since windowSeconds)
      (postgres firsts'.1 firsts'.2 since windowSeconds)
      ((sqlite clock firsts.1 firsts.2 since windowSeconds).inRange
        (rows.filterMap (localEntry minify))) requests where
  spends r member tagged :=
    Bool.eq_iff_iff.mpr ((comparable.spends r member tagged).trans decide_eq_true_iff.symm)
  outcomes e member := by
    obtain ⟨row, stored, text, _⟩ := mem_localEntries dated (List.mem_of_mem_filter member)
    have inOrder := comparable.outcomes row stored _ text
    exact Bool.eq_iff_iff.mpr (inOrder.trans decide_eq_true_iff.symm)
  claims r request counts e member its := by
    obtain ⟨row, stored, text, read⟩ := mem_localEntries dated (List.mem_of_mem_filter member)
    have workflow : r.workflowId = some row.workflowId := by rw [its, read]
    exact claims_alike comparable request (inRange_of_counts comparable request its counts) stored
      workflow text
  ties r request counts workflowId tagged e member e' member' le le' := by
    rw [claimants_inRange sqlite_forward counts] at member member'
    have inRange := inRange_of_counts comparable request tagged counts
    obtain ⟨row, stored, claimant, status, type⟩ :=
      claimant_of_sqlite dated comparable request counts tagged member
    obtain ⟨row', stored', claimant', status', type'⟩ :=
      claimant_of_sqlite dated comparable request counts tagged member'
    obtain ⟨order, alike⟩ :=
      comparable.ties r request inRange row stored row' stored' _ _ claimant claimant'
    have same := alike (le_antisymm (order.mp le) (of_decide_eq_true le'))
    rw [status, status', type, type', same.1, same.2]
    exact ⟨rfl, rfl⟩

theorem currencies_of_comparable (dated : ∀ row ∈ rows, Dated row)
    (comparable : Comparable clock requests rows since windowSeconds) (distinct : List Str)
    (known : ∀ c ∈ distinct, ∃ o ∈ (sqlite clock firsts.1 firsts.2 since windowSeconds).counted
      (rows.filterMap (localEntry minify)), o.status = .accepted ∧ o.currency = some c) :
    distinct.flatMap (fun currency => currency.splitOn ',') = distinct := by
  have whole : ∀ c ∈ distinct, c.splitOn ',' = [c] := by
    intro c member
    obtain ⟨o, counted, accepted, its⟩ := known c member
    obtain ⟨e, stood, rfl⟩ := List.mem_map.mp counted
    obtain ⟨entered, counts⟩ := List.mem_filter.mp stood
    obtain ⟨row, stored, text, read⟩ := mem_localEntries dated entered
    have status : row.status = .accepted := by
      rw [Entry.counted, read] at accepted
      exact accepted
    have currency : row.currency = some c := by
      rw [Entry.counted, read] at its
      simp only at its
      split at its
      · cases its
      · exact its
    have inRange := (comparable.outcomes row stored _ text).mp counts
    have plain := comparable.currencies row stored status _ text inRange c currency
    apply List.splitOnP_eq_singleton
    intro d there
    simpa using ne_of_mem_of_not_mem there plain
  induction distinct with
  | nil => rfl
  | cons c distinct inductionHypothesis =>
    rw [List.flatMap_cons, whole c (List.mem_cons_self ..), inductionHypothesis
      (fun d member => known d (List.mem_cons_of_mem _ member))
      (fun d member => whole d (List.mem_cons_of_mem _ member))]
    rfl

theorem reports_same (dated : ∀ row ∈ rows, Dated row)
    (comparable : Comparable clock requests rows since windowSeconds) :
    getWorkflowEconomics clock firsts.1 firsts.2 minify requests rows since windowSeconds =
      outcomesSummary firsts'.1 firsts'.2 jsonText (requests.map Spend.mirrored)
        (rows.filterMap mirrored) since windowSeconds := by
  have agrees := @agrees_of_comparable minify _ _ _ _ firsts firsts' _ dated comparable
  have alloc := alloc_at agrees
  have counted := counted_at agrees
  rw [getWorkflowEconomics, outcomesSummary, ← economics_inRange sqlite_forward,
    ← economics_inRange postgres_forward,
    @mirrored_entries minify jsonText _ _ _ _ firsts firsts' _ dated comparable,
    Dialect.economics, Dialect.economics,
    show requests.map Spend.mirrored = requests.map (Spend.at DateTime.instant) from rfl, alloc,
    counted, counted_inRange]
  exact report_congr fun distinct known => currencies_of_comparable dated comparable distinct known

end

/-- After any writes, where what the queries compare means the same to both databases, no cost is
    lost, every outcome in range is reported with its cost, and the two reports have the same
    rows. -/
theorem economics_consistent (clock : JulianClock) (firsts : First textLe × First textLe)
    (firsts' : First instantLe × First instantLe) (minify jsonText : Json → Str)
    (writes : List Write) (requests : List (Spend DateTime)) (since : DateTime)
    (windowSeconds : Nat)
    (comparable : Comparable clock requests (recorded writes) since windowSeconds) :
    Consistent clock firsts firsts' minify jsonText requests (recorded writes) since windowSeconds where
  conserves := economics_conserves _ _ _
  conserves' := economics_conserves _ _ _
  together := sqlite_together (dated_recorded writes) comparable
  together' := postgres_together (dated_recorded writes) comparable
  same := List.Perm.of_eq (reports_same (dated_recorded writes) comparable)

/-! ## On two ledgers -/

def firstRow {T : Type} (le : T → T → Bool) : List (Entry T) → Option (Entry T)
  | [] => none
  | entry :: entries =>
    match firstRow le entries with
    | none => some entry
    | some other => if le entry.eventTime other.eventTime then some entry else some other

section

variable {T : Type} {le : T → T → Bool} {entries : List (Entry T)}

theorem firstRow_none (none : firstRow le entries = none) : entries = [] := by
  cases entries with
  | nil => rfl
  | cons entry entries =>
    rw [firstRow] at none
    split at none
    · cases none
    · split at none <;> cases none

theorem firstRow_least (total : ∀ a b, le a b = true ∨ le b a = true)
    (trans : ∀ a b c, le a b = true → le b c = true → le a c = true) {entry : Entry T}
    (picked : firstRow le entries = some entry) :
    entry ∈ entries ∧ ∀ other ∈ entries, le entry.eventTime other.eventTime = true := by
  induction entries generalizing entry with
  | nil => cases picked
  | cons head entries inductionHypothesis =>
    have self := fun t => (total t t).elim id id
    rw [firstRow] at picked
    split at picked
    · next none =>
      obtain rfl := Option.some.inj picked
      rw [firstRow_none none]
      exact ⟨List.mem_cons_self .., by simp [self]⟩
    · next other rest =>
      obtain ⟨member, least⟩ := inductionHypothesis rest
      split at picked
      · next before =>
        obtain rfl := Option.some.inj picked
        simp only [List.mem_cons, true_or, forall_eq_or_imp, self, true_and]
        exact fun third there => trans _ _ _ before (least third there)
      · next after =>
        obtain rfl := Option.some.inj picked
        simp only [List.mem_cons, member, or_true, forall_eq_or_imp, true_and]
        exact ⟨(total _ _).resolve_right after, least⟩

/-- A database that takes the first of the first rows. -/
def stable (total : ∀ a b, le a b = true ∨ le b a = true)
    (trans : ∀ a b c, le a b = true → le b c = true → le a c = true) : First le where
  pick := firstRow le
  least := firstRow_least total trans
  found := firstRow_none

end

def stableTexts : First textLe :=
  stable (fun a b => by rw [textLe_iff, textLe_iff]; exact List.le_total a.isoformat b.isoformat)
    textLe_trans

def stableInstants : First instantLe :=
  stable (fun _ _ => by simpa only [instantLe_iff] using Int.le_total _ _)
    fun _ _ _ => by simpa only [instantLe_iff] using Int.le_trans

def pullRequest : Outcome where
  outcomeId := "pr-1"
  workflowId := "w"
  status := .accepted
  eventTime := []

def marchRequest : Spend DateTime where
  ts := (monthStart marchMoment).toDateTime
  costUsd := 1
  workflowId := some ("w" : Str)

def february : DateTime :=
  { (monthStart marchMoment).toDateTime with
    month := 2
    monthRange := by omega
    dayRange := by decide }

theorem march_comparable :
    Comparable cuttingClock [marchRequest] (recorded [.insert pullRequest marchMoment.toDateTime]) february
      86400 := by
  have utc : ∀ t : DateTime, marchMoment.isoformat = t.isoformat → t = marchMoment.toDateTime :=
    fun t same => (isoformat_inj same).symm
  have rows : recorded [.insert pullRequest marchMoment.toDateTime] =
      [{ pullRequest with eventTime := marchMoment.isoformat : Outcome}.row 1] := rfl
  rw [rows]
  constructor
  · intro r member _
    obtain rfl := List.mem_singleton.mp member
    exact inOrder_of_utc rfl rfl
  · intro row member t text
    obtain rfl := List.mem_singleton.mp member
    obtain rfl := utc t text
    exact inOrder_of_utc rfl rfl
  · intro row member _ _ _
    obtain rfl := List.mem_singleton.mp member
    exact Or.inr ⟨"unspecified", rfl⟩
  · intro row member _ _ _ _ currency known
    obtain rfl := List.mem_singleton.mp member
    cases known
  · intro r request _ row member _ t text
    obtain rfl := List.mem_singleton.mp request
    obtain rfl := List.mem_singleton.mp member
    obtain rfl := utc t text
    exact ⟨inOrder_of_utc rfl rfl, fun _ => resolved_of_apart rfl rfl (by decide)⟩
  · intro _ _ _ row member _ _
    obtain rfl := List.mem_singleton.mp member
    have its : ({ pullRequest with eventTime := marchMoment.isoformat : Outcome}.row 1).outcomeType =
        .str "unspecified" := rfl
    rw [its]
    simp
  · intro r _ _ row member row' member' t t' claimant claimant'
    obtain rfl := List.mem_singleton.mp member
    obtain rfl := List.mem_singleton.mp member'
    obtain rfl := utc t claimant.time
    obtain rfl := utc t' claimant'.time
    exact ⟨inOrder_of_utc rfl rfl, fun _ => ⟨rfl, rfl⟩⟩

theorem march_consistent :
    Consistent cuttingClock (stableTexts, stableTexts) (stableInstants, stableInstants) (fun _ => [])
      (fun _ => []) [marchRequest] (recorded [.insert pullRequest marchMoment.toDateTime]) february
      86400 :=
  economics_consistent _ _ _ _ _ _ _ _ _ march_comparable

/-- An outcome of the evening before is charged with a request of the morning: its text, which
    has an offset, sorts after that of the request. -/
theorem outcome_before_request_charged :
    ¬ ∀ (clock : JulianClock) (firsts : First textLe × First textLe) (firsts' : First instantLe × First instantLe)
      (minify jsonText : Json → Str) (writes : List Write) (requests : List (Spend DateTime))
      (since : DateTime) (windowSeconds : Nat), 0 < windowSeconds →
      Consistent clock firsts firsts' minify jsonText requests (recorded writes) since windowSeconds := by
  intro claim
  have same := (claim cuttingClock (stableTexts, stableTexts) (stableInstants, stableInstants) (fun _ => [])
    (fun _ => []) [.insert pullRequest easternNight] [marchRequest] february 86400 (by decide)).same
  have accepted := (same.map WorkflowEconomics.costAcceptedUsd).sum_eq
  revert accepted
  decide +kernel

end BurnLens.Economics
