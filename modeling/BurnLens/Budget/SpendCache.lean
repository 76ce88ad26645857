import BurnLens.Config
import BurnLens.Library.Machine
import Mathlib.Algebra.BigOperators.Group.List.Basic
import Mathlib.Logic.Function.Basic

/-! # The daily-spend cache

`SpendCache` between the requests that read a label's spend, the paths by which rows reach the
table, the clock and local midnight.  A call of `get_today_spend` reads the cache, queries the
table and stores the answer in three steps, since the query runs outside the lock.  Only
`_log_record` invalidates what is cached of a label.
-/

namespace BurnLens.Budget

open Library

/-- A row of `requests`, with the local day of its timestamp; an empty label counts as none. -/
structure SpendRow where
  eventId : Nat
  label : Option Str
  cost : Usd
  day : Int
deriving DecidableEq

inductive InsertPath where
  | logRecord
  -- `SQLitePersistenceWorker`
  | worker
  -- `_log_cache_hit` without a write-ahead log
  | cacheHit
  -- `recover_wal`
  | recovery
deriving DecidableEq

structure CacheEntry where
  spent : Usd
  -- `time.monotonic()`, in microseconds
  storedAt : Int
  -- the local day of the query
  day : Int

/-- What a call got from the table, and when: the rows and the local day of the query. -/
structure SpendQuery where
  spent : Usd
  table : List SpendRow
  day : Int

structure SpendCall where
  label : Str
  -- the rows whose invalidation had run when the call began
  settled : List SpendRow
  query : Option SpendQuery

/-- A call that has returned, with the table and the local day of its return. -/
structure SpendRead where
  label : Str
  spent : Usd
  settled : List SpendRow
  table : List SpendRow
  today : Int

structure SpendState where
  table : List SpendRow
  -- stored by `_log_record`, which has not called `invalidate` yet
  pending : List SpendRow
  -- the rows whose invalidation has run
  settled : List SpendRow
  cache : Str → Option CacheEntry
  calls : Nat → Option SpendCall
  reads : List SpendRead
  now : Int
  today : Int

inductive SpendEvent where
  | pass (micros : Nat)
  | midnight
  | call (id : Nat) (label : Str)
  | query (id : Nat)
  | store (id : Nat)
  | insert (row : SpendRow) (path : InsertPath)
  | invalidate (row : SpendRow)

def total (rows : List SpendRow) : Usd := (rows.map SpendRow.cost).sum

def rowsSince (table : List SpendRow) (label : Str) (day : Int) : List SpendRow :=
  table.filter fun row => row.label = some label ∧ day ≤ row.day

namespace SpendState

def start (table : List SpendRow) (now : Int) (today : Int) : SpendState :=
  { table, pending := [], settled := table, cache := fun _ => none, calls := fun _ => none,
    reads := [], now, today }

def finish (s : SpendState) (label : Str) (spent : Usd) (settled : List SpendRow) : SpendState :=
  { s with reads := ⟨label, spent, settled, s.table, s.today⟩ :: s.reads }

/-- `get_today_spend` up to its query: the answer of the cache, if it is young enough. -/
def call (ttl : Int) (s : SpendState) (id : Nat) (label : Str) : Option SpendState :=
  if (s.calls id).isSome then none
  else
    match (s.cache label).filter fun entry => s.now - entry.storedAt < ttl with
    | some entry => some (s.finish label entry.spent s.settled)
    | none => some { s with calls := Function.update s.calls id (some ⟨label, s.settled, none⟩) }

/-- `get_spend_by_key_label_today`. -/
def query (s : SpendState) (id : Nat) : Option SpendState :=
  match s.calls id with
  | some ⟨label, settled, none⟩ =>
    let answer := ⟨total (rowsSince s.table label s.today), s.table, s.today⟩
    some { s with calls := Function.update s.calls id (some ⟨label, settled, some answer⟩) }
  | _ => none

/-- The end of `get_today_spend`: the answer is stored and returned. -/
def store (s : SpendState) (id : Nat) : Option SpendState :=
  match s.calls id with
  | some ⟨label, settled, some answer⟩ =>
    let entry := ⟨answer.spent, s.now, answer.day⟩
    let returned := s.finish label answer.spent settled
    some { returned with
      cache := Function.update s.cache label (some entry)
      calls := Function.update s.calls id none }
  | _ => none

/-- `insert_request`, for a row that is not stored yet. -/
def insert (s : SpendState) (row : SpendRow) (path : InsertPath) : Option SpendState :=
  if s.table.any fun other => other.eventId = row.eventId then none
  else some { s with
    table := s.table ++ [row]
    pending := if path = .logRecord then row :: s.pending else s.pending }

/-- `_log_record` after its insert: `spend_cache.invalidate(label)`. -/
def invalidate (s : SpendState) (row : SpendRow) : Option SpendState :=
  if row ∈ s.pending then
    some { s with
      pending := s.pending.erase row
      settled := row :: s.settled
      cache := fun label => if row.label = some label then none else s.cache label }
  else none

end SpendState

def spendCache (ttl : Int) : Machine SpendState SpendEvent where
  step s
    | .pass micros => some { s with now := s.now + micros }
    | .midnight => some { s with today := s.today + 1 }
    | .call id label => s.call ttl id label
    | .query id => s.query id
    | .store id => s.store id
    | .insert row path => s.insert row path
    | .invalidate row => s.invalidate row

/-! ## Freshness -/

/-- The amount is the sum of rows of the label from `day` on, among them every settled one. -/
def Accounts (table : List SpendRow) (label : Str) (day : Int) (settled : List SpendRow)
    (spent : Usd) : Prop :=
  ∃ seen, seen.Sublist table ∧ (∀ row ∈ seen, row.label = some label ∧ day ≤ row.day) ∧
    (∀ row ∈ settled, row.label = some label → day ≤ row.day → row ∈ seen) ∧ spent = total seen

structure Fresh (s : SpendState) : Prop where
  reads : ∀ read ∈ s.reads, Accounts read.table read.label read.today read.settled read.spent
  -- the invalidation of a labelled row has run, or is about to
  followed : ∀ row ∈ s.table, row.label ≠ none → row ∈ s.settled ∨ row ∈ s.pending

/-- A cached answer is used on the day of its query only.  An answer is stored on the day of
    its query, and no row of the label that it misses has been invalidated since.  A labelled
    row is stored by `_log_record`. -/
def Undisturbed (ttl : Int) (s : SpendState) : SpendEvent → Prop
  | .call _ label => ∀ entry ∈ s.cache label, s.now - entry.storedAt < ttl → entry.day = s.today
  | .store id => ∀ call ∈ s.calls id, ∀ answer ∈ call.query, answer.day = s.today ∧
      ∀ row ∈ s.settled, row.label = some call.label → row ∈ answer.table
  | .insert row path => row.label = none ∨ path = .logRecord
  | _ => True

instance (ttl : Int) (s : SpendState) (event : SpendEvent) : Decidable (Undisturbed ttl s event) :=
  match event with
  | .call _ label =>
    inferInstanceAs (Decidable (∀ entry ∈ s.cache label, s.now - entry.storedAt < ttl →
      entry.day = s.today))
  | .store id =>
    inferInstanceAs (Decidable (∀ call ∈ s.calls id, ∀ answer ∈ call.query, answer.day = s.today ∧
      ∀ row ∈ s.settled, row.label = some call.label → row ∈ answer.table))
  | .insert _ _ => inferInstanceAs (Decidable (_ ∨ _))
  | .pass _ | .midnight | .query _ | .invalidate _ => isTrue trivial

structure SpendInvariant (s : SpendState) : Prop where
  fresh : Fresh s
  cached : ∀ label, ∀ entry ∈ s.cache label,
    Accounts s.table label entry.day s.settled entry.spent
  called : ∀ id, ∀ call ∈ s.calls id, call.settled ⊆ s.table
  queried : ∀ id, ∀ call ∈ s.calls id, ∀ answer ∈ call.query,
    answer.spent = total (rowsSince answer.table call.label answer.day) ∧
      answer.table.Sublist s.table ∧ call.settled ⊆ answer.table
  settled : s.settled ⊆ s.table
  pending : s.pending ⊆ s.table

variable {s s' : SpendState} {ttl : Int}

theorem forall_mem_update {κ α : Type} [DecidableEq κ] {entries : κ → Option α} {key : κ}
    {new : Option α} {holds : κ → α → Prop} (all : ∀ other, ∀ entry ∈ entries other, holds other entry)
    (added : ∀ entry ∈ new, holds key entry) :
    ∀ other, ∀ entry ∈ Function.update entries key new other, holds other entry := by
  intro other entry present
  by_cases same : other = key
  · subst same
    rw [Function.update_self] at present
    exact added entry present
  · rw [Function.update_of_ne same] at present
    exact all other entry present

theorem SpendInvariant.of_start (table : List SpendRow) (now : Int) (today : Int) :
    SpendInvariant (.start table now today) where
  fresh := ⟨nofun, fun _ stored _ => Or.inl stored⟩
  cached := nofun
  called := nofun
  queried := nofun
  settled _ member := member
  pending := nofun

theorem Accounts.mono {table later : List SpendRow} {label : Str} {day : Int}
    {settled : List SpendRow} {spent : Usd} (accounts : Accounts table label day settled spent)
    (grows : table.Sublist later) : Accounts later label day settled spent := by
  obtain ⟨seen, sublist, counted, complete, sum⟩ := accounts
  exact ⟨seen, sublist.trans grows, counted, complete, sum⟩

theorem accounts_rowsSince {table later : List SpendRow} {label : Str} {day : Int}
    {settled : List SpendRow} (grows : table.Sublist later)
    (complete : ∀ row ∈ settled, row.label = some label → row ∈ table) :
    Accounts later label day settled (total (rowsSince table label day)) := by
  refine ⟨rowsSince table label day, List.filter_sublist.trans grows, fun row member => ?_,
    fun row member same recent => ?_, rfl⟩
  · simpa using (List.mem_filter.mp member).2
  · exact List.mem_filter.mpr ⟨complete row member same, by simpa using ⟨same, recent⟩⟩

theorem SpendInvariant.finish (invariant : SpendInvariant s) {label : Str} {spent : Usd}
    {settled : List SpendRow} (accounts : Accounts s.table label s.today settled spent) :
    SpendInvariant (s.finish label spent settled) where
  fresh := ⟨fun read member => by
    obtain rfl | earlier := List.mem_cons.mp member
    · exact accounts
    · exact invariant.fresh.reads read earlier, invariant.fresh.followed⟩
  cached := invariant.cached
  called := invariant.called
  queried := invariant.queried
  settled := invariant.settled
  pending := invariant.pending

theorem SpendInvariant.call (invariant : SpendInvariant s) {id : Nat} {label : Str}
    (current : Undisturbed ttl s (.call id label)) (stepped : s.call ttl id label = some s') :
    SpendInvariant s' := by
  simp only [SpendState.call] at stepped
  split at stepped
  · cases stepped
  · split at stepped
    · next entry hit =>
      cases stepped
      obtain ⟨cached, young⟩ := Option.filter_eq_some_iff.mp hit
      have accounts := invariant.cached label entry cached
      rw [current entry cached (by simpa using young)] at accounts
      exact invariant.finish accounts
    · cases stepped
      exact { invariant with
        fresh := ⟨invariant.fresh.reads, invariant.fresh.followed⟩
        called := forall_mem_update invariant.called fun call begun => by
          cases begun; exact invariant.settled
        queried := forall_mem_update invariant.queried fun call begun => by
          cases begun; exact nofun }

theorem SpendInvariant.query (invariant : SpendInvariant s) {id : Nat}
    (stepped : s.query id = some s') : SpendInvariant s' := by
  simp only [SpendState.query] at stepped
  split at stepped
  · next label settled begun =>
    cases stepped
    have earlier := invariant.called id _ begun
    exact { invariant with
      fresh := ⟨invariant.fresh.reads, invariant.fresh.followed⟩
      called := forall_mem_update invariant.called fun call begun => by
        cases begun; exact earlier
      queried := forall_mem_update invariant.queried fun call begun answer answered => by
        cases begun; cases answered
        exact ⟨rfl, List.Sublist.refl _, earlier⟩ }
  · cases stepped

theorem SpendInvariant.store (invariant : SpendInvariant s) {id : Nat}
    (current : Undisturbed ttl s (.store id)) (stepped : s.store id = some s') :
    SpendInvariant s' := by
  simp only [SpendState.store] at stepped
  split at stepped
  · next label settled answer begun =>
    cases stepped
    obtain ⟨sum, grows, earlier⟩ := invariant.queried id _ begun answer rfl
    obtain ⟨sameDay, complete⟩ := current _ begun answer rfl
    have returned : Accounts s.table label s.today settled answer.spent := by
      rw [sum, sameDay]
      exact accounts_rowsSince grows fun row member _ => earlier member
    have stored : Accounts s.table label answer.day s.settled answer.spent := by
      rw [sum]
      exact accounts_rowsSince grows complete
    have finished := invariant.finish returned
    exact { finished with
      fresh := ⟨finished.fresh.reads, finished.fresh.followed⟩
      cached := forall_mem_update invariant.cached fun entry cached => by
        cases cached; exact stored
      called := forall_mem_update invariant.called nofun
      queried := forall_mem_update invariant.queried nofun }
  · cases stepped

theorem SpendInvariant.insert (invariant : SpendInvariant s) {row : SpendRow} {path : InsertPath}
    (invalidates : Undisturbed ttl s (.insert row path)) (stepped : s.insert row path = some s') :
    SpendInvariant s' := by
  simp only [SpendState.insert] at stepped
  split at stepped
  · cases stepped
  · cases stepped
    have grows : s.table.Sublist (s.table ++ [row]) := List.sublist_append_left ..
    exact {
      fresh := ⟨invariant.fresh.reads, fun other stored labelled => by
        obtain old | new := List.mem_append.mp stored
        · refine (invariant.fresh.followed other old labelled).imp_right fun pending => ?_
          dsimp only
          split
          · exact List.mem_cons_of_mem _ pending
          · exact pending
        · cases List.mem_singleton.mp new
          right
          simp [invalidates.resolve_left labelled]⟩
      cached := fun label entry cached => (invariant.cached label entry cached).mono grows
      called := fun id call present =>
        List.Subset.trans (invariant.called id call present) grows.subset
      queried := fun id call present answer answered => by
        obtain ⟨sum, before, earlier⟩ := invariant.queried id call present answer answered
        exact ⟨sum, before.trans grows, earlier⟩
      settled := List.Subset.trans invariant.settled grows.subset
      pending := fun other pending => by
        dsimp only at pending
        split at pending
        · obtain rfl | old := List.mem_cons.mp pending
          · exact List.mem_append_right _ (List.mem_singleton_self _)
          · exact grows.subset (invariant.pending old)
        · exact grows.subset (invariant.pending pending) }

theorem SpendInvariant.invalidate (invariant : SpendInvariant s) {row : SpendRow}
    (stepped : s.invalidate row = some s') : SpendInvariant s' := by
  simp only [SpendState.invalidate] at stepped
  split at stepped
  · next pending =>
    cases stepped
    exact { invariant with
      fresh := ⟨invariant.fresh.reads, fun other stored labelled => by
        obtain settled | waiting := invariant.fresh.followed other stored labelled
        · exact Or.inl (List.mem_cons_of_mem _ settled)
        · by_cases same : other = row
          · exact Or.inl (same ▸ List.mem_cons_self)
          · exact Or.inr ((List.mem_erase_of_ne same).mpr waiting)⟩
      cached := fun label entry cached => by
        dsimp only at cached
        split at cached
        · cases cached
        · next other =>
          obtain ⟨seen, sublist, counted, complete, sum⟩ := invariant.cached label entry cached
          refine ⟨seen, sublist, counted, fun settled member same => ?_, sum⟩
          -- what stays in the cache belongs to other labels than the row's
          obtain rfl | old := List.mem_cons.mp member
          · exact absurd same other
          · exact complete settled old same
      settled := fun other member => by
        obtain rfl | old := List.mem_cons.mp member
        · exact invariant.pending pending
        · exact invariant.settled old
      pending := fun other member => invariant.pending (List.mem_of_mem_erase member) }
  · cases stepped

theorem spendCache_preserves :
    (spendCache ttl).Preserves (Undisturbed ttl) SpendInvariant := by
  intro s event s' invariant undisturbed stepped
  cases event with
  | pass micros =>
    cases stepped
    exact { invariant with fresh := ⟨invariant.fresh.reads, invariant.fresh.followed⟩ }
  | midnight =>
    cases stepped
    exact { invariant with fresh := ⟨invariant.fresh.reads, invariant.fresh.followed⟩ }
  | call id label => exact invariant.call undisturbed stepped
  | query id => exact invariant.query stepped
  | store id => exact invariant.store undisturbed stepped
  | insert row path => exact invariant.insert undisturbed stepped
  | invalidate row => exact invariant.invalidate stepped

/-- In every undisturbed run each call returns an amount that accounts for the rows of its day,
    and the invalidation of every labelled row follows. -/
theorem fresh_of_undisturbed (table : List SpendRow) (now : Int) (today : Int)
    (events : List SpendEvent)
    (undisturbed : (spendCache ttl).Guarded (Undisturbed ttl) (.start table now today) events)
    (ran : (spendCache ttl).run (.start table now today) events = some s') : Fresh s' :=
  (spendCache_preserves.run _ (.of_start table now today) undisturbed ran).fresh

def spentFive : SpendRow := ⟨1, some "alice", 5, 0⟩

theorem fresh_of_undisturbed_hit :
    ∃ s', (spendCache 30000000).run (.start [] 0 0) [.insert spentFive .logRecord, .invalidate spentFive,
      .call 0 "alice", .query 0, .store 0, .pass 10000000, .call 1 "alice"] = some s' ∧ Fresh s' := by
  have ran : ∃ s', (spendCache 30000000).run (.start [] 0 0) [.insert spentFive .logRecord,
      .invalidate spentFive, .call 0 "alice", .query 0, .store 0, .pass 10000000, .call 1 "alice"] =
      some s' := ⟨_, rfl⟩
  obtain ⟨s', ran⟩ := ran
  exact ⟨s', ran, fresh_of_undisturbed [] 0 0 _ (by decide) ran⟩

/-- An answer that is stored after the invalidation of a row that it misses is served next. -/
theorem overtaken_query_stale :
    ¬ ∀ ttl table now today events s', (spendCache ttl).run (.start table now today) events = some s' →
      Fresh s' := by
  intro always
  have ran : ∃ s', (spendCache 30000000).run (.start [] 0 0) [.call 0 "alice", .query 0,
      .insert spentFive .logRecord, .invalidate spentFive, .store 0, .call 1 "alice"] = some s' ∧
      ⟨"alice", 0, [spentFive], [spentFive], 0⟩ ∈ s'.reads := ⟨_, rfl, .head _⟩
  obtain ⟨s', ran, read⟩ := ran
  obtain ⟨seen, sublist, -, complete, sum⟩ := (always _ _ _ _ _ s' ran).reads _ read
  have counted := complete spentFive (.head _) rfl (by decide)
  obtain rfl | rfl : seen = [] ∨ seen = [spentFive] := by
    cases sublist with
    | cons _ sublist => exact Or.inl (List.sublist_nil.mp sublist)
    | cons_cons _ sublist => exact Or.inr (congrArg _ (List.sublist_nil.mp sublist))
  · cases counted
  · simp [total, spentFive] at sum

end BurnLens.Budget
