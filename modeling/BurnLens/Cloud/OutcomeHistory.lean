import BurnLens.Cloud.Outcomes
import BurnLens.Storage.Timestamps

/-! # The history of an outcome

`reconcile_derived_outcome` and `correct_outcome` write what they change to `outcome_history`, and
`get_outcome_history` reads it in the order of its times.  The entries lead from the insertion to the
current row, whatever the calls and their order.
-/

namespace BurnLens.Cloud

open Library Storage

/-! ## The tables -/

/-- A row of `outcome_history`, in the order in which the rows were inserted. -/
structure HistoryEntry where
  outcomeId : Str
  priorStatus : OutcomeStatus
  newStatus : OutcomeStatus
  priorEventTime : Str
  newEventTime : Str
  reason : Str
  source : Str
  changedAt : Str
  metadata : Fields

structure OutcomeTables where
  rows : List OutcomeRow := []
  history : List HistoryEntry := []

namespace OutcomeTables

variable (s : OutcomeTables)

def insert (outcome : Outcome) : OutcomeTables := { s with rows := (insertOutcome s.rows outcome).1 }

def reconcile (outcome : Outcome) (reason : Str) (now : UtcDateTime) : OutcomeTables :=
  let (rows, result) := reconcileDerivedOutcome s.rows outcome
  match result, findOutcome s.rows outcome.outcomeId with
  | .corrected, some current =>
    { rows
      history := s.history ++
        [{ outcomeId := outcome.outcomeId, priorStatus := current.status, newStatus := outcome.status
           priorEventTime := current.eventTime, newEventTime := outcome.eventTime, reason
           source := outcome.source, changedAt := now.isoformat, metadata := outcome.typedMetadata }] }
  | _, _ => { s with rows }

def correct (outcomeId : Str) (status : OutcomeStatus) (reason : Str) (eventTime : Option Str)
    (now : UtcDateTime) : OutcomeTables :=
  match findOutcome s.rows outcomeId with
  | none => s
  | some current =>
    { rows := (correctOutcome s.rows outcomeId status eventTime).1
      history := s.history ++
        [{ outcomeId, priorStatus := current.status, newStatus := status
           priorEventTime := current.eventTime
           newEventTime := correctedTime current.eventTime eventTime, reason, source := "cli"
           changedAt := now.isoformat, metadata := [] }] }

/-- `get_outcome_history`: equal times keep the order of insertion. -/
def getOutcomeHistory (outcomeId : Str) : List HistoryEntry :=
  (s.history.filter fun entry => entry.outcomeId = outcomeId).mergeSort
    fun a b => !decide (b.changedAt < a.changedAt)

end OutcomeTables

inductive OutcomeRequest where
  | insert (outcome : Outcome)
  | reconcile (outcome : Outcome) (reason : Str)
  | correct (outcomeId : Str) (status : OutcomeStatus) (reason : Str) (eventTime : Option Str)

/-- A call, at the time that it reads once its transaction has begun. -/
structure OutcomeCall where
  write : OutcomeRequest
  now : UtcDateTime

def OutcomeTables.call (s : OutcomeTables) (call : OutcomeCall) : OutcomeTables :=
  match call.write with
  | .insert outcome => s.insert outcome
  | .reconcile outcome reason => s.reconcile outcome reason call.now
  | .correct outcomeId status reason eventTime => s.correct outcomeId status reason eventTime call.now

/-- The calls in the order in which their transactions commit. -/
def outcomesAfter (calls : List OutcomeCall) : OutcomeTables := calls.foldl OutcomeTables.call {}

/-- The outcome that a call inserts where there is none with the id. -/
def OutcomeCall.inserts (outcomeId : Str) (call : OutcomeCall) : Option Outcome :=
  match call.write with
  | .insert outcome | .reconcile outcome _ => if outcome.outcomeId = outcomeId then some outcome else none
  | .correct .. => none

def insertionOf (outcomeId : Str) (calls : List OutcomeCall) : Option Outcome :=
  calls.findSome? (OutcomeCall.inserts outcomeId)

abbrev Standing := OutcomeStatus × Str

def OutcomeRow.standing (row : OutcomeRow) : Standing := (row.status, row.eventTime)

def HistoryEntry.prior (entry : HistoryEntry) : Standing := (entry.priorStatus, entry.priorEventTime)

def HistoryEntry.new (entry : HistoryEntry) : Standing := (entry.newStatus, entry.newEventTime)

/-- The entries lead from one standing to another. -/
inductive Replays : Standing → List HistoryEntry → Standing → Prop
  | nil (standing : Standing) : Replays standing [] standing
  | cons {entry : HistoryEntry} {entries : List HistoryEntry} {last : Standing} :
    Replays entry.new entries last → Replays entry.prior (entry :: entries) last

theorem Replays.concat {first : Standing} {entries : List HistoryEntry} {entry : HistoryEntry}
    (replays : Replays first entries entry.prior) : Replays first (entries ++ [entry]) entry.new := by
  generalize last : entry.prior = standing at replays
  induction replays with
  | nil =>
    subst last
    exact .cons (.nil _)
  | cons _ inductionHypothesis => exact .cons (inductionHypothesis last)

/-- What a run of calls leaves of one outcome. -/
structure HistoryReplays (calls : List OutcomeCall) (outcomeId : Str) : Prop where
  chain : ∀ row, findOutcome (outcomesAfter calls).rows outcomeId = some row →
    ∃ first, insertionOf outcomeId calls = some first ∧
      Replays (first.status, first.eventTime) ((outcomesAfter calls).getOutcomeHistory outcomeId)
        row.standing
  missing : findOutcome (outcomesAfter calls).rows outcomeId = none →
    insertionOf outcomeId calls = none ∧ (outcomesAfter calls).getOutcomeHistory outcomeId = []
  -- a caller-owned outcome is not changed by a derived one
  owned : ∀ before now outcome reason after row,
    calls = before ++ ⟨.reconcile outcome reason, now⟩ :: after →
    outcome.outcomeId = outcomeId → findOutcome (outcomesAfter before).rows outcomeId = some row →
    row.source ≠ "derived" →
    outcomesAfter (before ++ [⟨.reconcile outcome reason, now⟩]) = outcomesAfter before

/-! ## One call -/

section Call

variable {rows : List OutcomeRow} {outcomeId other : Str} {outcome : Outcome} {s : OutcomeTables}

theorem findOutcome_append (missing : findOutcome rows outcome.outcomeId = none) :
    findOutcome (appendOutcome rows outcome) other =
      if outcome.outcomeId = other then some (outcome.row (rows.length + 1)) else findOutcome rows other := by
  rw [findOutcome, appendOutcome, List.find?_append]
  by_cases same : outcome.outcomeId = other
  · subst same
    rw [findOutcome] at missing
    rw [missing, if_pos rfl, Option.none_or]
    exact List.find?_cons_of_pos (decide_eq_true rfl)
  · have apart : List.find? (fun row : OutcomeRow => decide (row.outcomeId = other))
        [outcome.row (rows.length + 1)] = none := by
      apply List.find?_cons_of_neg
      rw [decide_eq_true_eq]
      exact same
    rw [if_neg same, apart, Option.or_none]
    rfl

theorem findOutcome_update {change : OutcomeRow → OutcomeRow}
    (keeps : ∀ row, row.outcomeId = outcomeId → (change row).outcomeId = outcomeId) :
    findOutcome (updateOutcome rows outcomeId change) other =
      if outcomeId = other then (findOutcome rows other).map change else findOutcome rows other := by
  induction rows with
  | nil => cases Decidable.em (outcomeId = other) <;> simp [updateOutcome, findOutcome]
  | cons row rows inductionHypothesis =>
    simp only [findOutcome, updateOutcome] at inductionHypothesis
    simp only [findOutcome, updateOutcome, List.map_cons, List.find?_cons]
    by_cases its : row.outcomeId = outcomeId
    · by_cases same : outcomeId = other
      · subst same
        simp [its, keeps row its]
      · simp [its, keeps row its, same, inductionHypothesis]
    · by_cases here : row.outcomeId = other
      · have apart : outcomeId ≠ other := fun same => its (here.trans same.symm)
        have kept : other ≠ outcomeId := Ne.symm apart
        simp [here, apart, kept]
      · simp [its, here, inductionHypothesis]

def standingOf (s : OutcomeTables) (outcomeId : Str) : Option Standing :=
  (findOutcome s.rows outcomeId).map OutcomeRow.standing

def entriesOf (s : OutcomeTables) (outcomeId : Str) : List HistoryEntry :=
  s.history.filter fun entry => entry.outcomeId = outcomeId

theorem filter_logged (history : List HistoryEntry) (entry : HistoryEntry) (outcomeId : Str) :
    ((history ++ [entry]).filter fun logged => logged.outcomeId = outcomeId) =
      (history.filter fun logged => logged.outcomeId = outcomeId) ++
        if entry.outcomeId = outcomeId then [entry] else [] := by
  rw [List.filter_append]
  by_cases its : entry.outcomeId = outcomeId <;> simp [its]

/-- What a call does to an outcome: nothing, its insertion, or a change with its entry. -/
inductive Effect (outcomeId : Str) (call : OutcomeCall) (s s' : OutcomeTables) : Prop
  | unchanged : standingOf s' outcomeId = standingOf s outcomeId →
    entriesOf s' outcomeId = entriesOf s outcomeId →
    (standingOf s outcomeId = none → call.inserts outcomeId = none) → Effect outcomeId call s s'
  | inserted (outcome : Outcome) : standingOf s outcomeId = none →
    call.inserts outcomeId = some outcome →
    standingOf s' outcomeId = some (outcome.status, outcome.eventTime) →
    entriesOf s' outcomeId = entriesOf s outcomeId → Effect outcomeId call s s'
  | changed (entry : HistoryEntry) : standingOf s outcomeId = some entry.prior →
    standingOf s' outcomeId = some entry.new →
    entriesOf s' outcomeId = entriesOf s outcomeId ++ [entry] → Effect outcomeId call s s'

theorem call_insert (outcome : Outcome) (now : UtcDateTime) (outcomeId : Str) :
    Effect outcomeId ⟨.insert outcome, now⟩ s (s.insert outcome) := by
  cases found : findOutcome s.rows outcome.outcomeId with
  | some row =>
    have same : s.insert outcome = s := by
      rw [OutcomeTables.insert, insertOutcome, found]
    rw [same]
    refine .unchanged rfl rfl fun missing => ?_
    apply if_neg
    rintro rfl
    rw [standingOf, found] at missing
    cases missing
  | none =>
    have after : (s.insert outcome).rows = appendOutcome s.rows outcome := by
      rw [OutcomeTables.insert, insertOutcome, found]
    have standing : standingOf (s.insert outcome) outcomeId =
        if outcome.outcomeId = outcomeId then some (outcome.status, outcome.eventTime)
        else standingOf s outcomeId := by
      rw [standingOf, after, findOutcome_append found]
      split
      · rfl
      · rfl
    by_cases its : outcome.outcomeId = outcomeId
    · subst its
      rw [if_pos rfl] at standing
      exact .inserted outcome (by rw [standingOf, found]; rfl) (if_pos rfl) standing rfl
    · rw [if_neg its] at standing
      exact .unchanged standing rfl fun _ => if_neg its

theorem call_reconcile (outcome : Outcome) (reason : Str) (now : UtcDateTime) (outcomeId : Str) :
    Effect outcomeId ⟨.reconcile outcome reason, now⟩ s (s.reconcile outcome reason now) := by
  cases found : findOutcome s.rows outcome.outcomeId with
  | none =>
    -- as in `insert_outcome`
    have inserted : s.reconcile outcome reason now = s.insert outcome := by
      rw [OutcomeTables.reconcile, OutcomeTables.insert, reconcileDerivedOutcome, insertOutcome, found]
    rw [inserted]
    obtain ⟨standing, entries, none⟩ | ⟨first, none, its, standing, entries⟩ | ⟨entry, before, after, entries⟩ :=
      call_insert (s := s) outcome now outcomeId
    · exact .unchanged standing entries none
    · exact .inserted first none its standing entries
    · exact .changed entry before after entries
  | some current =>
    have inserts : standingOf s outcomeId = none →
        OutcomeCall.inserts outcomeId ⟨.reconcile outcome reason, now⟩ = none := by
      intro missing
      apply if_neg
      rintro rfl
      rw [standingOf, found] at missing
      cases missing
    by_cases duplicate : current.source ≠ "derived" ∨
        ¬ (current.status ≠ outcome.status ∨ current.eventTime ≠ outcome.eventTime)
    · have same : s.reconcile outcome reason now = s := by
        simp only [OutcomeTables.reconcile, reconcileDerivedOutcome, found, if_pos duplicate]
      rw [same]
      exact .unchanged rfl rfl inserts
    · have after : (s.reconcile outcome reason now).rows =
          updateOutcome s.rows outcome.outcomeId fun row => { outcome.row row.id with synced := row.synced } := by
        simp only [OutcomeTables.reconcile, reconcileDerivedOutcome, found, if_neg duplicate]
      have standing : standingOf (s.reconcile outcome reason now) outcomeId =
          if outcome.outcomeId = outcomeId then
            (standingOf s outcomeId).map fun _ => (outcome.status, outcome.eventTime)
          else standingOf s outcomeId := by
        have keeps : ∀ row : OutcomeRow, row.outcomeId = outcome.outcomeId →
            ({ outcome.row row.id with synced := row.synced } : OutcomeRow).outcomeId =
              outcome.outcomeId := fun _ _ => rfl
        rw [standingOf, after, findOutcome_update keeps]
        split
        · rw [Option.map_map, standingOf, Option.map_map]
          rfl
        · rfl
      by_cases its : outcome.outcomeId = outcomeId
      · subst its
        have before : standingOf s outcome.outcomeId = some current.standing := by
          rw [standingOf, found]
          rfl
        rw [if_pos rfl, before] at standing
        refine .changed
          { outcomeId := outcome.outcomeId, priorStatus := current.status, newStatus := outcome.status
            priorEventTime := current.eventTime, newEventTime := outcome.eventTime, reason
            source := outcome.source, changedAt := now.isoformat, metadata := outcome.typedMetadata }
          before standing ?_
        simp only [entriesOf, OutcomeTables.reconcile, reconcileDerivedOutcome, found, if_neg duplicate]
        rw [filter_logged, if_pos rfl]
      · rw [if_neg its] at standing
        refine .unchanged standing ?_ inserts
        simp only [entriesOf, OutcomeTables.reconcile, reconcileDerivedOutcome, found, if_neg duplicate]
        rw [filter_logged, if_neg its, List.append_nil]

theorem call_correct (named : Str) (status : OutcomeStatus) (reason : Str) (eventTime : Option Str)
    (now : UtcDateTime) (outcomeId : Str) : Effect outcomeId ⟨.correct named status reason eventTime, now⟩ s
      (s.correct named status reason eventTime now) := by
  cases found : findOutcome s.rows named with
  | none =>
    have same : s.correct named status reason eventTime now = s := by
      rw [OutcomeTables.correct, found]
    rw [same]
    exact .unchanged rfl rfl fun _ => rfl
  | some current =>
    have after : (s.correct named status reason eventTime now).rows = updateOutcome s.rows named fun row =>
        { row with status, eventTime := correctedTime current.eventTime eventTime } := by
      simp only [OutcomeTables.correct, correctOutcome, found]
    have standing : standingOf (s.correct named status reason eventTime now) outcomeId =
        if named = outcomeId then (standingOf s outcomeId).map fun _ =>
          (status, correctedTime current.eventTime eventTime)
        else standingOf s outcomeId := by
      have keeps : ∀ row : OutcomeRow, row.outcomeId = named →
          ({ row with status, eventTime := correctedTime current.eventTime eventTime } :
            OutcomeRow).outcomeId = named := fun _ its => its
      rw [standingOf, after, findOutcome_update keeps]
      split
      · rw [Option.map_map, standingOf, Option.map_map]
        rfl
      · rfl
    by_cases its : named = outcomeId
    · subst its
      have before : standingOf s named = some current.standing := by
        rw [standingOf, found]
        rfl
      rw [if_pos rfl, before] at standing
      refine .changed
        { outcomeId := named, priorStatus := current.status, newStatus := status
          priorEventTime := current.eventTime
          newEventTime := correctedTime current.eventTime eventTime, reason, source := "cli"
          changedAt := now.isoformat, metadata := [] }
        before standing ?_
      simp only [entriesOf, OutcomeTables.correct, found]
      rw [filter_logged, if_pos rfl]
    · rw [if_neg its] at standing
      refine .unchanged standing ?_ fun _ => rfl
      simp only [entriesOf, OutcomeTables.correct, found]
      rw [filter_logged, if_neg its, List.append_nil]

theorem call_effect (call : OutcomeCall) (outcomeId : Str) : Effect outcomeId call s (s.call call) := by
  obtain ⟨write, now⟩ := call
  cases write with
  | insert outcome => exact call_insert outcome now outcomeId
  | reconcile outcome reason => exact call_reconcile outcome reason now outcomeId
  | correct named status reason eventTime => exact call_correct named status reason eventTime now outcomeId

theorem reconcile_owned {row : OutcomeRow} {reason : Str} {now : UtcDateTime}
    (found : findOutcome s.rows outcome.outcomeId = some row) (owned : row.source ≠ "derived") :
    s.reconcile outcome reason now = s := by
  simp only [OutcomeTables.reconcile, reconcileDerivedOutcome, found]
  rw [if_pos (Or.inl owned)]

end Call

/-! ## The order of the entries -/

theorem isoformat_ordered {a b : UtcDateTime} (ordered : a.instant ≤ b.instant) :
    ¬ b.isoformat < a.isoformat := by
  have utc : a.wallClock ≤ b.wallClock := by
    have offsetA := a.utc
    have offsetB := b.utc
    rw [DateTime.instant, DateTime.instant] at ordered
    omega
  have rangeA := a.microsecondRange
  have rangeB := b.microsecondRange
  rw [DateTime.wallClock, DateTime.wallClock] at utc
  rw [DateTime.isoformat_lt_iff]
  rintro (less | ⟨same, less⟩)
  · omega
  · have later : a.microsecond ≤ b.microsecond := by omega
    rw [DateTime.suffix, DateTime.suffix, a.utc, b.utc] at less
    by_cases whole : a.microsecond = 0
    · rw [if_pos whole, List.nil_append] at less
      split at less
      · exact List.lt_irrefl _ less
      · exact DateTime.not_cons_lt_cons (by decide) _ _ less
    · have fraction : b.microsecond ≠ 0 := by omega
      rw [if_neg whole, if_neg fraction, List.cons_append, List.cons_append, List.cons_lt_cons_self,
        numeral_append_lt (by omega) (by omega)] at less
      obtain before | ⟨_, tail⟩ := less
      · omega
      · exact List.lt_irrefl _ tail

/-- No call has an earlier time than one before it. -/
def ClockForward (calls : List OutcomeCall) : Prop :=
  calls.Pairwise fun a b => a.now.instant ≤ b.now.instant

theorem call_history (s : OutcomeTables) (call : OutcomeCall) : ∃ entries : List HistoryEntry,
    (s.call call).history = s.history ++ entries ∧ entries.length ≤ 1 ∧
      ∀ entry ∈ entries, entry.changedAt = call.now.isoformat := by
  have none : ∀ entry ∈ ([] : List HistoryEntry), entry.changedAt = call.now.isoformat :=
    fun _ member => absurd member List.not_mem_nil
  obtain ⟨write, now⟩ := call
  cases write with
  | insert outcome => exact ⟨[], (List.append_nil _).symm, Nat.zero_le 1, none⟩
  | reconcile outcome reason =>
    simp only [OutcomeTables.call, OutcomeTables.reconcile]
    split
    · refine ⟨_, rfl, le_rfl, fun entry member => ?_⟩
      rw [List.mem_singleton.mp member]
    · exact ⟨[], (List.append_nil _).symm, Nat.zero_le 1, none⟩
  | correct named status reason eventTime =>
    simp only [OutcomeTables.call, OutcomeTables.correct]
    split
    · exact ⟨[], (List.append_nil _).symm, Nat.zero_le 1, none⟩
    · refine ⟨_, rfl, le_rfl, fun entry member => ?_⟩
      rw [List.mem_singleton.mp member]

theorem outcomesAfter_concat (calls : List OutcomeCall) (call : OutcomeCall) :
    outcomesAfter (calls ++ [call]) = (outcomesAfter calls).call call := by
  rw [outcomesAfter, List.foldl_append]
  rfl

theorem mem_history {calls : List OutcomeCall} {entry : HistoryEntry}
    (member : entry ∈ (outcomesAfter calls).history) :
    ∃ call ∈ calls, entry.changedAt = call.now.isoformat := by
  induction calls using List.reverseRecOn with
  | nil => cases member
  | append_singleton calls call inductionHypothesis =>
    obtain ⟨entries, after, -, stamped⟩ := call_history (outcomesAfter calls) call
    rw [outcomesAfter_concat, after, List.mem_append] at member
    obtain earlier | new := member
    · obtain ⟨other, there, its⟩ := inductionHypothesis earlier
      exact ⟨other, List.mem_append_left _ there, its⟩
    · exact ⟨call, List.mem_append_right _ (List.mem_singleton_self _), stamped entry new⟩

theorem history_ordered {calls : List OutcomeCall} (forward : ClockForward calls) :
    (outcomesAfter calls).history.Pairwise fun a b => ¬ b.changedAt < a.changedAt := by
  induction calls using List.reverseRecOn with
  | nil => exact List.Pairwise.nil
  | append_singleton calls call inductionHypothesis =>
    obtain ⟨earlier, -, last⟩ := List.pairwise_append.mp forward
    obtain ⟨entries, after, atMost, stamped⟩ := call_history (outcomesAfter calls) call
    rw [outcomesAfter_concat, after, List.pairwise_append]
    refine ⟨inductionHypothesis earlier, ?_, ?_⟩
    · cases entries with
      | nil => exact List.Pairwise.nil
      | cons entry rest =>
        have alone : rest = [] := List.length_eq_zero_iff.mp (by simpa using atMost)
        rw [alone]
        exact List.pairwise_singleton _ _
    · intro a inHistory b new
      obtain ⟨other, there, its⟩ := mem_history inHistory
      rw [its, stamped b new]
      exact isoformat_ordered (last other there call (List.mem_singleton_self _))

theorem getOutcomeHistory_eq {calls : List OutcomeCall} (forward : ClockForward calls) (outcomeId : Str) :
    (outcomesAfter calls).getOutcomeHistory outcomeId = entriesOf (outcomesAfter calls) outcomeId := by
  apply List.mergeSort_of_pairwise
  apply List.Pairwise.imp _ ((history_ordered forward).filter _)
  intro a b ordered
  rw [decide_eq_false ordered, Bool.not_false]

/-! ## Every run -/

/-- The entries lead from the insertion to the current row. -/
structure Recorded (calls : List OutcomeCall) (outcomeId : Str) : Prop where
  chain : ∀ standing, standingOf (outcomesAfter calls) outcomeId = some standing →
    ∃ first, insertionOf outcomeId calls = some first ∧
      Replays (first.status, first.eventTime) (entriesOf (outcomesAfter calls) outcomeId) standing
  missing : standingOf (outcomesAfter calls) outcomeId = none →
    insertionOf outcomeId calls = none ∧ entriesOf (outcomesAfter calls) outcomeId = []

theorem recorded (calls : List OutcomeCall) (outcomeId : Str) : Recorded calls outcomeId := by
  induction calls using List.reverseRecOn with
  | nil => exact ⟨fun _ found => absurd found (Option.some_ne_none _).symm, fun _ => ⟨rfl, rfl⟩⟩
  | append_singleton calls call inductionHypothesis =>
    have insertion : insertionOf outcomeId (calls ++ [call]) =
        (insertionOf outcomeId calls).or (call.inserts outcomeId) := by
      rw [insertionOf, List.findSome?_append, List.findSome?_singleton]
      rfl
    obtain ⟨standing, entries, none⟩ | ⟨outcome, none, inserts, standing, entries⟩ |
      ⟨entry, before, after, entries⟩ := call_effect (s := outcomesAfter calls) call outcomeId
    · constructor
      · intro current its
        rw [outcomesAfter_concat, standing] at its
        obtain ⟨first, inserted, replays⟩ := inductionHypothesis.chain current its
        rw [insertion, inserted, outcomesAfter_concat, entries]
        exact ⟨first, rfl, replays⟩
      · intro missing
        rw [outcomesAfter_concat, standing] at missing
        obtain ⟨notInserted, empty⟩ := inductionHypothesis.missing missing
        rw [insertion, notInserted, outcomesAfter_concat, entries, empty, none missing]
        exact ⟨rfl, rfl⟩
    · obtain ⟨notInserted, empty⟩ := inductionHypothesis.missing none
      constructor
      · intro current its
        rw [outcomesAfter_concat, standing] at its
        cases its
        rw [insertion, notInserted, inserts, outcomesAfter_concat, entries, empty]
        exact ⟨outcome, rfl, .nil _⟩
      · intro missing
        rw [outcomesAfter_concat, standing] at missing
        cases missing
    · obtain ⟨first, inserted, replays⟩ := inductionHypothesis.chain _ before
      constructor
      · intro current its
        rw [outcomesAfter_concat, after] at its
        cases its
        rw [insertion, inserted, outcomesAfter_concat, entries]
        exact ⟨first, rfl, replays.concat⟩
      · intro missing
        rw [outcomesAfter_concat, after] at missing
        cases missing

/-- The history of an outcome replays to its current row. -/
theorem history_replays (calls : List OutcomeCall) (forward : ClockForward calls) (outcomeId : Str) :
    HistoryReplays calls outcomeId := by
  have all := recorded calls outcomeId
  constructor
  · intro row found
    rw [getOutcomeHistory_eq forward]
    exact all.chain row.standing (by rw [standingOf, found]; rfl)
  · intro missing
    rw [getOutcomeHistory_eq forward]
    exact all.missing (by rw [standingOf, missing]; rfl)
  · intro before now outcome reason after row _ its found owned
    subst its
    rw [outcomesAfter_concat]
    exact reconcile_owned found owned

def derivedOutcome (status : OutcomeStatus) : Outcome where
  outcomeId := "pr-1"
  workflowId := "w"
  status := status
  eventTime := "2026-03-01T00:30:00+00:00"
  source := "derived"

def mergedCalls : List OutcomeCall :=
  [⟨.insert (derivedOutcome .failed), marchMoment⟩,
   ⟨.reconcile (derivedOutcome .rejected) "derived source refresh", marchMoment⟩,
   ⟨.correct "pr-1" .rejected "no change" none, marchMoment⟩,
   ⟨.reconcile (derivedOutcome .accepted) "derived source refresh", marchMoment⟩]

theorem merged_replays : HistoryReplays mergedCalls "pr-1" ∧
    (outcomesAfter mergedCalls).history.map HistoryEntry.priorStatus = [.failed, .rejected, .rejected] := by
  refine ⟨history_replays mergedCalls ?_ "pr-1", by decide +kernel⟩
  simp only [ClockForward, mergedCalls, List.pairwise_cons, List.mem_cons, List.not_mem_nil, or_false,
    forall_eq_or_imp, forall_eq, le_refl, and_self, false_imp_iff, implies_true, List.Pairwise.nil]

end BurnLens.Cloud
