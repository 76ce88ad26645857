import BurnLens.Findings.Lifecycle

/-! # Verification of savings

Passes, decisions and verifications one at a time.  The baseline of a resolution is in columns of
its own, and its scope in the evidence that a pass replaces: the two stay together where no pass
detects what has been resolved before.
-/

namespace BurnLens.Findings

open Library

/-! ## Runs -/

/-- What a resolve call measures: the scope and the window of its baseline, the requests that were
    there, and the verification that it records. -/
structure Resolution where
  fingerprint : Str
  scope : Scope
  window : Window
  requests : List (Dated SubjectRequest)
  verification : Fields

def Resolution.baseline (site : Site) (r : Resolution) : ℚ × Nat :=
  getSubjectSpend site r.requests r.scope r.window

/-- The findings, and the resolutions that there have been, the newest last. -/
structure FindingRecord where
  rows : FindingTable := []
  resolutions : List Resolution := []

def resolutionsOf (fingerprint : Str) (resolutions : List Resolution) : List Resolution :=
  resolutions.filter fun r => r.fingerprint = fingerprint

inductive FindingStep where
  | sync (findings : List WasteFinding) (now : Moment)
  | set (fingerprint : Str) (status : Str) (call : Resolve) (requests : List (Dated SubjectRequest))

section

variable (site : Site)

def Resolve.resolution (call : Resolve) (existing : StoredFinding)
    (requests : List (Dated SubjectRequest)) : Resolution where
  fingerprint := existing.fingerprint
  scope := call.scope existing
  window := call.baselineWindow
  requests
  verification := call.verification site existing

namespace FindingRecord

variable (s : FindingRecord)

def resolve (existing : StoredFinding) (call : Resolve) (requests : List (Dated SubjectRequest)) :
    FindingRecord :=
  let resolution := call.resolution site existing requests
  { rows := s.rows.update existing.fingerprint
      (call.resolved site existing (resolution.baseline site))
    resolutions := s.resolutions ++ [resolution] }

def setFindingStatus (fingerprint : Str) (status : Str) (call : Resolve)
    (requests : List (Dated SubjectRequest)) : FindingRecord :=
  match FindingStatus.ofText? status with
  | none => s
  | some .resolved =>
    match s.rows.row? fingerprint with
    | none => s
    | some existing => s.resolve site existing call requests
  | some status => { s with rows := setStatus s.rows fingerprint status }

def step : FindingStep → Option FindingRecord
  | .sync findings now => (syncFindings now s.rows findings).map fun rows => { s with rows }
  | .set fingerprint status call requests =>
    some (s.setFindingStatus site fingerprint status call requests)

end FindingRecord

def recordMachine : Machine FindingRecord FindingStep where
  step := FindingRecord.step site

/-- A verdict compares the baseline of the resolution with what was spent in its scope, in a window
    of the length of the baseline's that begins where that ends. -/
structure Compares (requests : List (Dated SubjectRequest)) (r : Resolution)
    (verdict : SavingsVerdict) (comparison : Comparison) : Prop where
  baseline : verdict.baselineRequests = some (r.baseline site).2 ∧
    comparison.baselineCostPerRequest = site.money (r.baseline site).1 / (r.baseline site).2
  current : ∃ window : Window, window.since = r.window.before ∧ window.length = r.window.length ∧
    let current := getSubjectSpend site requests r.scope window
    verdict.currentRequests = some current.2 ∧
      comparison.currentCostPerRequest = current.1 / current.2

/-- The evidence of a finding tells of its resolutions. -/
structure Tells (row : StoredFinding) (earlier : List Resolution) (latest : Resolution) : Prop where
  verification : row.verification = some latest.verification
  history : earlier ≠ [] → ∃ history, row.evidence.get? "verification_history" =
    some (.arr (history ++ earlier.map fun r => .obj r.verification))

structure LikeWithLike (s : FindingRecord) : Prop where
  compares : ∀ traffic now fingerprint, ∀ verdict ∈ verifySavings site s.rows traffic now fingerprint,
    ∀ comparison ∈ verdict.comparison, ∃ r ∈ (resolutionsOf fingerprint s.resolutions).getLast?,
      Compares site traffic.requests r verdict comparison
  tells : ∀ fingerprint earlier latest,
    resolutionsOf fingerprint s.resolutions = earlier ++ [latest] →
      ∃ row ∈ s.rows.row? fingerprint, Tells row earlier latest

/-- A pass detects nothing that has been resolved before. -/
def detectsUnresolved (s : FindingRecord) : FindingStep → Prop
  | .sync findings _ => ∀ finding ∈ findings,
      (s.rows.row? finding.fingerprint).bind StoredFinding.resolvedAt = none
  | .set .. => True

instance (s : FindingRecord) (l : FindingStep) : Decidable (detectsUnresolved s l) :=
  match l with
  | .sync findings _ => inferInstanceAs (Decidable (∀ finding ∈ findings,
      (s.rows.row? finding.fingerprint).bind StoredFinding.resolvedAt = none))
  | .set .. => isTrue trivial

/-- What the row of a finding holds of its resolutions. -/
structure Records (row : StoredFinding) (earlier : List Resolution) (latest : Resolution) : Prop
    extends Tells row earlier latest where
  resolvedAt : row.resolvedAt = some latest.window.before
  days : ∃ days ∈ row.baselineWindowDays, latest.window = windowBefore latest.window.before days
  requests : row.baselineRequests = some (latest.baseline site).2
  cost : row.baselineCostUsd = some (site.money (latest.baseline site).1)
  scope : row.measuredScope site = latest.scope

structure RecordInvariant (s : FindingRecord) : Prop where
  unresolved : ∀ fingerprint, resolutionsOf fingerprint s.resolutions = [] →
    (s.rows.row? fingerprint).bind StoredFinding.resolvedAt = none
  records : ∀ fingerprint earlier latest,
    resolutionsOf fingerprint s.resolutions = earlier ++ [latest] →
      ∃ row ∈ s.rows.row? fingerprint, Records site row earlier latest

/-! ## Measures -/

variable {site : Site} {row existing : StoredFinding} {call : Resolve}

theorem getSubjectSpend_empty {requests : List (Dated SubjectRequest)} {scope : Scope} {t : Moment} :
    (getSubjectSpend site requests scope ⟨t, t⟩).2 = 0 := by
  have none_ : ∀ row : Dated SubjectRequest, site.within ⟨t, t⟩ row = false := by
    intro row
    rw [Site.within]
    cases site.database with
    | sqlite =>
      dsimp only
      cases decide (row.timestamp < site.isoformat t) <;> rfl
    | postgres =>
      simp only [Bool.and_eq_false_iff, decide_eq_false_iff_not]
      omega
  simp [getSubjectSpend, none_]

theorem baseline_empty {r : Resolution} (empty : r.window = windowBefore r.window.before 0) :
    (r.baseline site).2 = 0 := by
  rw [Resolution.baseline, empty]
  have same : windowBefore r.window.before 0 = ⟨r.window.before, r.window.before⟩ := by
    simp [windowBefore, Moment.addDays]
  rw [same]
  exact getSubjectSpend_empty

theorem length_windowBefore (t : Moment) (days : Int) :
    (windowBefore t days).length = days * 86400000000 := by
  simp only [windowBefore, Window.length, Moment.addDays]
  omega

theorem length_windowAfter (t : Moment) (days : Int) :
    (windowAfter t days).length = days * 86400000000 := by
  simp only [windowAfter, Window.length, Moment.addDays]
  omega

/-- What a verdict compares is what the columns and the evidence of the finding say. -/
theorem verifySavings_compares {rows : FindingTable} {traffic : Traffic} {now : Moment}
    {fingerprint : Str} {verdict : SavingsVerdict} {comparison : Comparison} {latest : Resolution}
    {earlier : List Resolution} (found : rows.row? fingerprint = some row)
    (records : Records site row earlier latest)
    (verified : verifySavings site rows traffic now fingerprint = some verdict)
    (compared : verdict.comparison = some comparison) :
    Compares site traffic.requests latest verdict comparison := by
  obtain ⟨days, its, window⟩ := records.days
  rw [Option.mem_def] at its
  rw [verifySavings, found, Option.map_some, Option.some.injEq] at verified
  subst verified
  have requests := records.requests
  cases counted : (latest.baseline site).2 with
  | zero =>
    rw [counted] at requests
    simp only [records.resolvedAt, requests] at compared
    cases compared
  | succ count =>
    have nonzero : days ≠ 0 := by
      rintro rfl
      rw [baseline_empty window] at counted
      cases counted
    rw [counted] at requests
    simp only [records.resolvedAt, requests, its, records.scope, records.cost] at compared ⊢
    have lengths : (windowAfter latest.window.before days).length = latest.window.length := by
      rw [window, length_windowBefore, length_windowAfter]
    split at compared
    · cases compared
    · next waited =>
      split at compared
      · cases compared
      · next traffic =>
        rw [if_neg waited, if_neg traffic]
        cases compared
        refine ⟨⟨?_, ?_⟩, windowAfter latest.window.before days, rfl, lengths, rfl, rfl⟩
        · rw [counted]
        · rw [counted]
          rfl

/-! ## A resolution -/

theorem cohortScope_cases (subject : Scope) (cohortKey : Str) :
    cohortScope subject cohortKey = subject ∨
      isScopeType (cohortScope subject cohortKey).type ∧ (cohortScope subject cohortKey).key ≠ [] := by
  rw [cohortScope]
  split
  · split
    · next named => exact Or.inr named
    · exact Or.inl rfl
  · exact Or.inl rfl

theorem verification_resolved {baseline : ℚ × Nat} :
    (call.resolved site existing baseline row).verification =
      some (call.verification site existing) := by
  rw [StoredFinding.verification, Resolve.resolved]
  dsimp only
  rw [Resolve.evidence, Fields.get?_set]

theorem verification_scope (site : Site) (call : Resolve) (existing : StoredFinding) :
    (call.verification site existing).get? "scope_type" = some (.str (call.scope existing).type) ∧
      (call.verification site existing).get? "scope_key" = some (.str (call.scope existing).key) :=
  ⟨rfl, rfl⟩

/-- The scope that a verifier reads back is the one that was resolved. -/
theorem measuredScope_resolved {baseline : ℚ × Nat} :
    (call.resolved site existing baseline existing).measuredScope site = call.scope existing := by
  obtain ⟨type, key⟩ := verification_scope site call existing
  rw [StoredFinding.measuredScope, verification_resolved]
  dsimp only
  rw [type, key]
  dsimp only
  obtain subject | ⟨named, some_⟩ := cohortScope_cases (Resolve.subject existing) (call.cohort existing)
  · split
    · rfl
    · exact subject.symm
  · rw [if_pos ⟨named, Or.inr some_⟩]

theorem history_resolved {baseline : ℚ × Nat} {earlier : List Resolution} {latest : Resolution}
    (tells : Tells existing earlier latest) :
    ∃ history, (call.resolved site existing baseline row).evidence.get? "verification_history" =
      some (.arr (history ++ (earlier ++ [latest]).map fun r => .obj r.verification)) := by
  have previous : existing.evidence.get? "verification" = some (.obj latest.verification) := by
    have told := tells.verification
    rw [StoredFinding.verification] at told
    split at told
    · next same =>
      rw [same, Option.some.inj told]
    · cases told
  rw [Resolve.resolved]
  dsimp only
  rw [Resolve.evidence, Fields.get?_set_of_ne _ _ (by decide), previous]
  dsimp only
  rw [Fields.get?_set]
  cases earlier with
  | nil => exact ⟨_, rfl⟩
  | cons first earlier =>
    obtain ⟨history, told⟩ := tells.history (List.cons_ne_nil _ _)
    rw [told]
    refine ⟨history, ?_⟩
    rw [List.map_append, ← List.append_assoc]
    rfl

/-! ## Steps -/

variable {s : FindingRecord} {rows : FindingTable} {fingerprint : Str} {now : Moment}
  {finding : WasteFinding} {findings : List WasteFinding}

theorem resolutionsOf_append (resolutions : List Resolution) (r : Resolution) :
    resolutionsOf fingerprint (resolutions ++ [r]) =
      resolutionsOf fingerprint resolutions ++ if r.fingerprint = fingerprint then [r] else [] := by
  simp [resolutionsOf, List.filter_append, List.filter_cons]

/-- An update that leaves the resolution of a finding and what is recorded of it. -/
theorem RecordInvariant.update {change : StoredFinding → StoredFinding}
    (invariant : RecordInvariant site s)
    (keeps : ∀ row, (change row).fingerprint = row.fingerprint)
    (unresolved : ∀ row, (change row).resolvedAt = row.resolvedAt)
    (records : ∀ row ∈ s.rows.row? fingerprint, ∀ earlier latest, Records site row earlier latest →
      Records site (change row) earlier latest) :
    RecordInvariant site { s with rows := s.rows.update fingerprint change } where
  unresolved other none_ := by
    have before := invariant.unresolved other none_
    dsimp only
    rw [FindingTable.row?_update keeps]
    cases found : s.rows.row? other with
    | none => rfl
    | some row =>
      rw [found] at before
      rw [Option.map_some, Option.bind_some]
      split
      · exact (unresolved row).trans before
      · exact before
  records other earlier latest resolved := by
    obtain ⟨row, found, kept⟩ := invariant.records other earlier latest resolved
    dsimp only
    rw [FindingTable.row?_update keeps, found]
    refine ⟨_, rfl, ?_⟩
    dsimp only
    split
    · next same =>
      have named : other = fingerprint := (FindingTable.row?_some found).2.symm.trans same
      exact records row (named ▸ found) earlier latest kept
    · exact kept

theorem RecordInvariant.resolve (invariant : RecordInvariant site s)
    {requests : List (Dated SubjectRequest)}
    (found : s.rows.row? fingerprint = some existing) :
    RecordInvariant site (s.resolve site existing call requests) := by
  obtain ⟨_, named⟩ := FindingTable.row?_some found
  have there : ∀ other, (s.resolve site existing call requests).rows.row? other =
      (s.rows.row? other).map fun row => if row.fingerprint = existing.fingerprint then
        call.resolved site existing ((call.resolution site existing requests).baseline site) row
      else row := fun other => FindingTable.row?_update fun _ => rfl
  have others : ∀ other, existing.fingerprint ≠ other →
      (s.resolve site existing call requests).rows.row? other = s.rows.row? other ∧
      resolutionsOf other (s.resolve site existing call requests).resolutions =
        resolutionsOf other s.resolutions := by
    intro other apart
    constructor
    · rw [there]
      cases held : s.rows.row? other with
      | none => rfl
      | some row =>
        have different : row.fingerprint ≠ existing.fingerprint := by
          rw [(FindingTable.row?_some held).2]
          exact Ne.symm apart
        rw [Option.map_some, if_neg different]
    · rw [FindingRecord.resolve, resolutionsOf_append]
      show _ ++ (if existing.fingerprint = other then _ else _) = _
      rw [if_neg apart, List.append_nil]
  have own : resolutionsOf fingerprint (s.resolve site existing call requests).resolutions =
      resolutionsOf fingerprint s.resolutions ++ [call.resolution site existing requests] := by
    rw [FindingRecord.resolve, resolutionsOf_append]
    show _ ++ (if existing.fingerprint = fingerprint then _ else _) = _
    rw [if_pos named]
  constructor
  · intro other none_
    by_cases same : existing.fingerprint = other
    · rw [← same, named, own] at none_
      exact absurd none_ (List.append_ne_nil_of_right_ne_nil _ (List.cons_ne_nil _ _))
    · obtain ⟨row, resolutions⟩ := others other same
      rw [row]
      exact invariant.unresolved other (resolutions ▸ none_)
  · intro other earlier latest resolved
    by_cases same : existing.fingerprint = other
    · rw [← same, named, own] at resolved
      obtain ⟨rfl, last⟩ := List.append_inj' resolved rfl
      obtain rfl := (List.cons.inj last).1
      rw [← same, named, there, found, Option.map_some, if_pos rfl]
      refine ⟨_, rfl, ⟨verification_resolved, ?_⟩, rfl, ⟨_, rfl, rfl⟩, rfl, rfl,
        measuredScope_resolved⟩
      intro some_
      obtain ⟨first, last, before⟩ := (List.eq_nil_or_concat _).resolve_left some_
      rw [List.concat_eq_append] at before
      obtain ⟨row, held, records⟩ := invariant.records fingerprint first last before
      rw [found] at held
      cases held
      rw [before]
      exact history_resolved records.toTells
    · obtain ⟨row, resolutions⟩ := others other same
      rw [row]
      exact invariant.records other earlier latest (resolutions ▸ resolved)

theorem RecordInvariant.setStatus (invariant : RecordInvariant site s) (status : FindingStatus) :
    RecordInvariant site { s with rows := Findings.setStatus s.rows fingerprint status } :=
  invariant.update (fun _ => rfl) (fun _ => rfl) fun _ _ _ _ records =>
    ⟨⟨records.verification, records.history⟩, records.resolvedAt, records.days, records.requests,
      records.cost, records.scope⟩

theorem resolvedAt_write {rows rows' : FindingTable} {existing : Option FindingStatus}
    (wrote : writeFinding rows finding now existing = some rows') (other : Str) :
    (rows'.row? other).bind StoredFinding.resolvedAt =
      (rows.row? other).bind StoredFinding.resolvedAt := by
  cases existing with
  | some status =>
    cases wrote
    rw [row?_refreshed]
    cases rows.row? other with
    | none => rfl
    | some row =>
      rw [Option.map_some, Option.bind_some, Option.bind_some]
      split <;> rfl
  | none =>
    rw [writeFinding] at wrote
    split at wrote
    · cases wrote
    · cases wrote
      rw [FindingTable.row?_append]
      cases rows.row? other with
      | some row => rfl
      | none =>
        rw [Option.none_or, FindingTable.row?, List.find?_cons]
        split <;> rfl

theorem row?_write {rows rows' : FindingTable} {existing : Option FindingStatus} {other : Str}
    (wrote : writeFinding rows finding now existing = some rows')
    (apart : other ≠ finding.fingerprint) : rows'.row? other = rows.row? other := by
  cases existing with
  | some status =>
    cases wrote
    rw [row?_refreshed]
    cases found : rows.row? other with
    | none => rfl
    | some row =>
      rw [Option.map_some, if_neg]
      rw [(FindingTable.row?_some found).2]
      exact apart
  | none =>
    rw [writeFinding] at wrote
    split at wrote
    · cases wrote
    · cases wrote
      have new : FindingTable.row? [finding.inserted now] other = none :=
        List.find?_eq_none.mpr fun row member => by
          obtain rfl := List.mem_singleton.mp member
          rw [decide_eq_true_eq]
          exact apart.symm
      rw [FindingTable.row?_append, new, Option.or_none]

/-- The write of a pass, of a finding that has not been resolved. -/
theorem RecordInvariant.write (invariant : RecordInvariant site s)
    (unresolved : (s.rows.row? finding.fingerprint).bind StoredFinding.resolvedAt = none)
    {existing : Option FindingStatus}
    (wrote : writeFinding s.rows finding now existing = some rows) :
    RecordInvariant site { s with rows } where
  unresolved other none_ := (resolvedAt_write wrote other).trans (invariant.unresolved other none_)
  records other earlier latest resolved := by
    obtain ⟨row, found, records⟩ := invariant.records other earlier latest resolved
    have apart : other ≠ finding.fingerprint := by
      rintro rfl
      rw [found, Option.bind_some, records.resolvedAt] at unresolved
      cases unresolved
    exact ⟨row, (row?_write wrote apart).trans found, records⟩

theorem RecordInvariant.sync (invariant : RecordInvariant site s)
    (unresolved : ∀ finding ∈ findings,
      (s.rows.row? finding.fingerprint).bind StoredFinding.resolvedAt = none)
    (synced : syncFindings now s.rows findings = some rows) :
    RecordInvariant site { s with rows } := by
  induction findings generalizing s with
  | nil =>
    cases synced
    exact invariant
  | cons finding findings inductionHypothesis =>
    obtain ⟨next, wrote, rest⟩ := Option.bind_eq_some_iff.mp synced
    apply inductionHypothesis (s := { s with rows := next })
    · exact invariant.write (unresolved finding List.mem_cons_self) wrote
    · intro other member
      rw [resolvedAt_write wrote]
      exact unresolved other (List.mem_cons_of_mem finding member)
    · exact rest

theorem recordInvariant_preserved :
    (recordMachine site).Preserves detectsUnresolved (RecordInvariant site) := by
  intro s l s' invariant unresolved stepped
  cases l with
  | sync findings now =>
    obtain ⟨rows, synced, rfl⟩ := Option.map_eq_some_iff.mp stepped
    exact invariant.sync unresolved synced
  | set fingerprint status call requests =>
    obtain rfl := Option.some.inj stepped
    rw [FindingRecord.setFindingStatus]
    split
    · exact invariant
    · split
      · exact invariant
      · next found => exact invariant.resolve found
    · exact invariant.setStatus _

theorem RecordInvariant.likeWithLike (invariant : RecordInvariant site s) : LikeWithLike site s where
  compares traffic now fingerprint verdict verified comparison compared := by
    cases found : s.rows.row? fingerprint with
    | none =>
      rw [verifySavings, found] at verified
      cases verified
    | some row =>
      obtain none_ | ⟨earlier, latest, resolved⟩ :=
        List.eq_nil_or_concat (resolutionsOf fingerprint s.resolutions)
      · have unresolved := invariant.unresolved fingerprint none_
        rw [found, Option.bind_some] at unresolved
        rw [Option.mem_def, verifySavings, found, Option.map_some, Option.some.injEq] at verified
        subst verified
        simp only [unresolved] at compared
        cases compared
      · rw [List.concat_eq_append] at resolved
        obtain ⟨row', held, records⟩ := invariant.records fingerprint earlier latest resolved
        refine ⟨latest, ?_, verifySavings_compares held records verified compared⟩
        rw [resolved, List.getLast?_concat]
        rfl
  tells fingerprint earlier latest resolved := by
    obtain ⟨row, found, records⟩ := invariant.records fingerprint earlier latest resolved
    exact ⟨row, found, records.toTells⟩

/-- Savings are verified like with like where no pass detects what has been resolved before: in
    every run of passes and decisions, one at a time, in which no pass detects a finding that has a
    resolution, a verification compares only what was spent in the scope and in a window of the
    length of the finding's latest resolve call, and the evidence tells of all of them. -/
theorem like_with_like (site : Site) (s : FindingRecord) (steps : List FindingStep)
    (unresolved : (recordMachine site).Guarded detectsUnresolved {} steps)
    (ran : (recordMachine site).run {} steps = some s) : LikeWithLike site s := by
  have start : RecordInvariant site {} := by
    refine ⟨fun _ _ => rfl, fun fingerprint earlier latest resolved => ?_⟩
    exact absurd resolved.symm (List.append_ne_nil_of_right_ne_nil _ (List.cons_ne_nil _ _))
  exact (recordInvariant_preserved.run _ start unresolved ran).likeWithLike

end

/-! ## A cohort that is detected again -/

/-- A request of the day before, in the cohort `workflow:w`. -/
def cohortRequest : Dated SubjectRequest where
  timestamp := "2026-03-16T00:00:00+00:00"
  ts := 1773619200000000
  fact := ⟨some "w", "gpt-4o", 1⟩

/-- A request of the day after, outside the cohort. -/
def otherRequest : Dated SubjectRequest where
  timestamp := "2026-03-18T00:00:00+00:00"
  ts := 1773792000000000
  fact := ⟨none, "gpt-4o", 1⟩

def resolveCohort : FindingStep :=
  .set "f" "resolved" { cohortKey := some "workflow:w", now := morning } [cohortRequest]

def resolvedOnce : List FindingStep :=
  [.sync [costly] morning, resolveCohort, .sync [] morning]

def detectedAgain : List FindingStep :=
  [.sync [costly] morning, resolveCohort, .sync [costly] morning]

theorem like_with_like_once : LikeWithLike (morningSite .postgres)
    (((recordMachine (morningSite .postgres)).run {} resolvedOnce).get (by decide +kernel)) :=
  like_with_like (morningSite .postgres) _ resolvedOnce (by decide +kernel) (Option.some_get _).symm

/-- A pass makes a verification compare a cohort with the whole subject: the scope of the
    resolution is lost, and with it what the evidence told of it. -/
theorem cohort_compared_with_subject :
    ¬ ∀ (site : Site) (s : FindingRecord) (steps : List FindingStep),
      (recordMachine site).run {} steps = some s → LikeWithLike site s := by
  intro claim
  let now : Moment := morning.addDays 7
  let traffic : Traffic := ⟨[otherRequest], []⟩
  have outcome : ((recordMachine (morningSite .postgres)).run {} detectedAgain).any fun s =>
      (verifySavings (morningSite .postgres) s.rows traffic now "f").any (fun verdict =>
        verdict.comparison.isSome && decide (verdict.currentRequests = some 1)) &&
      decide ((resolutionsOf "f" s.resolutions).map Resolution.scope = [⟨"workflow", "w"⟩]) := by
    decide +kernel
  obtain ⟨s, ran, facts⟩ := (Option.any_eq_true _ _).mp outcome
  obtain ⟨verdicts, scopes⟩ := Bool.and_eq_true_iff.mp facts
  obtain ⟨verdict, verified, both⟩ := (Option.any_eq_true _ _).mp verdicts
  obtain ⟨some_, counted⟩ := Bool.and_eq_true_iff.mp both
  obtain ⟨comparison, compared⟩ := Option.isSome_iff_exists.mp some_
  obtain ⟨r, latest, compares⟩ := (claim _ s detectedAgain ran).compares traffic now "f" verdict
    verified comparison compared
  obtain ⟨window, _, _, requests, _⟩ := compares.current
  obtain ⟨only, rest, its, scope, none_⟩ := List.map_eq_cons_iff.mp (of_decide_eq_true scopes)
  rw [its, List.map_eq_nil_iff.mp none_] at latest
  obtain rfl : only = r := Option.some.inj latest
  have outside : Scope.holds ⟨"workflow", "w"⟩ otherRequest.fact = false := rfl
  have nothing : (getSubjectSpend (morningSite .postgres) traffic.requests only.scope window).2 = 0 := by
    rw [scope, getSubjectSpend]
    simp only [traffic, List.filter_cons, outside, Bool.false_and]
    rfl
  rw [nothing, of_decide_eq_true counted] at requests
  cases requests

end BurnLens.Findings
