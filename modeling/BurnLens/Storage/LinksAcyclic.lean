import BurnLens.Storage.RequestLinks

/-! # Links stay acyclic

However the calls of `insert_request` overlap, the links of each workspace close no cycle, and no
call drops a record for its links.
-/

namespace BurnLens.Storage

open Library Cost Relation

section

variable {pricing : PricingData} {texts : NumberText} {dumps : Json → Str} {rows rows' : List LinkedRow}
  {call : InsertRequest} {relation : Relations} {workspaceId : Str} {s s' : Ledger}

/-- The row of a call. -/
structure RowOf (texts : NumberText) (call : InsertRequest) (row : LinkedRow) : Prop where
  eventId : row.eventId = call.eventId
  workspaceId : row.workspaceId = call.record.workspaceId
  cost : row.row.columns.getD "cost_usd" .null = texts.realAffinity call.record.costUsd

/-- The call finds its event id, or the row of its scan, or lacks a value that a column needs. -/
def Ignored (rows : List LinkedRow) (call : InsertRequest) : Prop :=
  alreadyStored (rows.map fun row => row.row.stored) call.eventId call.record.toRequestRecord = true ∨
    call.record.complete = false

theorem rowOf_linkedRow {columns tags : Fields} {id : Nat}
    (filled : call.record.columns pricing texts dumps call.today call.eventId = .ok columns) :
    RowOf texts call (call.linkedRow texts tags relation { id, columns }) := by
  simp only [LedgerRecord.columns, bind_eq_ok] at filled
  obtain ⟨pricingClass, -, fingerprint, -, filled⟩ := filled
  cases filled
  exact ⟨rfl, rfl, rfl⟩

theorem insertLinked_ok (inserted : insertLinked pricing texts dumps rows call relation = .ok rows') :
    (rows' = rows ∧ Ignored rows call) ∨
      (∀ row ∈ rows, row.eventId ≠ call.eventId) ∧ ∃ tags columns,
        RowOf texts call (call.linkedRow texts tags relation { id := rows.length + 1, columns }) ∧
        rows' = rows ++ [call.linkedRow texts tags relation { id := rows.length + 1, columns }] := by
  simp only [insertLinked, bind_eq_ok] at inserted
  obtain ⟨tags, -, stored, inserts, inserted⟩ := inserted
  cases inserted
  obtain ⟨rfl, ignored⟩ | ⟨-, new, columns, filled, rfl⟩ := insertRow_ok inserts
  · refine Or.inl ⟨by simp, ?_⟩
    rw [List.map_map] at ignored
    exact ignored
  · refine Or.inr ⟨fun row member same => ?_, tags, columns, rowOf_linkedRow filled, ?_⟩
    · have found : alreadyStored ((rows.map LinkedRow.row).map Row.stored) call.eventId
          call.record.toRequestRecord = true := by
        rw [alreadyStored, List.map_map, List.any_map, List.any_eq_true]
        refine ⟨row, member, ?_⟩
        rw [LinkedRow.eventId] at same
        simp [same]
      exact Bool.false_ne_true (new.symm.trans found)
    · simp [List.length_map]

/-! ## The invariant -/

/-- Nothing that the links lead to leads back to the event. -/
def Apart (rows : List LinkedRow) (call : InsertRequest) (relation : Relations) : Prop :=
  ∀ workspaceId kind target, call.record.workspaceId = some workspaceId →
    relation kind = some target → ¬ ReflTransGen (Linked rows workspaceId) target call.eventId

/-- A record whose call has returned is stored with its cost, or was ignored. -/
def Settled (texts : NumberText) (rows : List LinkedRow) (returned : Returned) : Prop :=
  (∃ row ∈ rows, RowOf texts returned.call row) ∨ Ignored returned.rows returned.call

structure Consistent (texts : NumberText) (s : Ledger) : Prop where
  acyclic : ∀ workspaceId, Acyclic (Linked s.rows workspaceId)
  apart : ∀ call relation, s.writer = some (call, relation) → Apart s.rows call relation
  ids : s.rows.map (fun row => row.row.id) = List.range' 1 s.rows.length
  settled : ∀ returned ∈ s.returned, Settled texts s.rows returned

theorem apart_validated (withWorkspace : ∃ workspaceId, call.record.workspaceId = some workspaceId ∧
      workspaceId ≠ []) :
    Apart rows call (validateRequestRelationships rows call.record call.eventId) := by
  intro workspaceId kind target own kept path
  obtain ⟨_, named, nonempty⟩ := withWorkspace
  rw [own, Option.some.injEq] at named
  subst named
  simp only [validateRequestRelationships, Option.bind_eq_some_iff] at kept
  obtain ⟨value, -, valid⟩ := kept
  cases value with
  | str text =>
    simp only [validTarget] at valid
    split at valid
    · cases valid
    · next passes =>
      cases valid
      have closes : closesCycle rows call.record.workspaceId target call.eventId = true := by
        obtain ⟨first, rest, rfl⟩ := List.exists_cons_of_ne_nil nonempty
        rw [own]
        exact decide_eq_true (mem_walk.mpr path)
      rw [closes, Bool.or_true] at passes
      exact absurd rfl passes
  | _ => cases valid

theorem linked_append {row : LinkedRow} {a b : Str}
    (link : Linked (rows ++ [row]) workspaceId a b) : Linked rows workspaceId a b ∨
      a = row.eventId ∧ row.workspaceId = some workspaceId ∧ ∃ kind, row.relation kind = some b := by
  obtain ⟨other, stored, own, source, kind, its⟩ := linked_iff.mp link
  obtain old | new := List.mem_append.mp stored
  · exact Or.inl (linked_iff.mpr ⟨other, old, own, source, kind, its⟩)
  · cases List.mem_singleton.mp new
    exact Or.inr ⟨source.symm, own, kind, its⟩

theorem Settled.append {returned : Returned} (settled : Settled texts rows returned)
    (row : LinkedRow) : Settled texts (rows ++ [row]) returned := by
  obtain ⟨own, stored, its⟩ | ignored := settled
  · exact Or.inl ⟨own, List.mem_append_left _ stored, its⟩
  · exact Or.inr ignored

/-- The insert of a record whose links lead to nothing that leads back to it. -/
theorem Consistent.store (consistent : Consistent texts s) (apart : Apart s.rows call relation) :
    Consistent texts (s.store pricing texts dumps call relation) := by
  simp only [Ledger.store]
  cases inserts : insertLinked pricing texts dumps s.rows call relation with
  | error raised =>
    exact ⟨consistent.acyclic, fun _ _ open' => by simp at open', consistent.ids, consistent.settled⟩
  | ok rows =>
    obtain ⟨rfl, ignored⟩ | ⟨-, tags, columns, its, rfl⟩ := insertLinked_ok inserts
    · refine ⟨consistent.acyclic, fun _ _ open' => by simp at open', consistent.ids, ?_⟩
      intro returned member
      obtain rfl | earlier := List.mem_cons.mp member
      · exact Or.inr ignored
      · exact consistent.settled returned earlier
    · refine ⟨fun workspaceId => ?_, fun _ _ open' => by simp at open', ?_, ?_⟩
      · apply (consistent.acyclic workspaceId).insert fun a b => linked_append
        rintro target ⟨own, kind, kept⟩
        rw [its.eventId]
        exact apart workspaceId kind target (its.workspaceId ▸ own) kept
      · rw [List.map_append, consistent.ids, List.length_append, List.length_singleton,
          List.range'_concat]
        simp [InsertRequest.linkedRow, Nat.add_comm]
      · intro returned member
        obtain rfl | earlier := List.mem_cons.mp member
        · exact Or.inl ⟨_, List.mem_append_right _ List.mem_cons_self, its⟩
        · exact (consistent.settled returned earlier).append _

theorem consistent_start : Consistent texts {} where
  acyclic workspaceId := Acyclic.of_empty fun a b link => by
    obtain ⟨row, stored, _⟩ := linked_iff.mp link
    cases stored
  apart _ _ open' := by cases open'
  ids := rfl
  settled _ member := by cases member

theorem consistent_step : (writers pricing texts dumps).Preserves
    (fun _ step => WithWorkspace step) (Consistent texts) := by
  intro s step s' consistent withWorkspace stepped
  cases step with
  | begin call =>
    simp only [writers] at stepped
    split at stepped
    · cases stepped
      refine ⟨consistent.acyclic, fun _ _ open' => ?_, consistent.ids, consistent.settled⟩
      cases open'
      exact apart_validated (withWorkspace call rfl)
    · cases stepped
  | commit =>
    obtain ⟨⟨call, relation⟩, open', rfl⟩ := Option.map_eq_some_iff.mp stepped
    exact consistent.store (consistent.apart call relation open')
  | rollback =>
    obtain ⟨_, _, rfl⟩ := Option.map_eq_some_iff.mp stepped
    exact ⟨consistent.acyclic, fun _ _ open' => by simp at open', consistent.ids, consistent.settled⟩
  | insert call =>
    simp only [writers] at stepped
    split at stepped
    · cases stepped
      exact consistent.store fun _ _ _ _ kept => by cases kept
    · cases stepped

end

end BurnLens.Storage
