import BurnLens.Budget.Reservation

/-! # Safety of concurrent reservations

A check is stale when a counter has grown between the `SELECT` that it was compared by and
the first `UPDATE` of the reservation.  In every run without a reservation on a stale check,
no policy admits more than its limit leaves room for; two engines, and so two locks, are
enough for a run that has one.
-/

namespace BurnLens.Budget

open Library

/-! ## Counter tables -/

section Tables

variable {counters : Counters} {key other : CounterKey} {initial amount : Usd} {row : Row}

theorem counters_insertOrIgnore (found : insertOrIgnore counters key initial other = some row) :
    counters other = some row ∨ (counters other = none ∧ row = ⟨initial, initial⟩) := by
  cases present : counters key with
  | some existing =>
    simp only [insertOrIgnore, present] at found
    exact Or.inl found
  | none =>
    simp only [insertOrIgnore, present] at found
    by_cases different : other = key
    · subst different
      rw [Function.update_self] at found
      exact Or.inr ⟨present, (Option.some.inj found).symm⟩
    · rw [Function.update_of_ne different] at found
      exact Or.inl found

theorem insertOrIgnore_of_some (found : counters other = some row) :
    insertOrIgnore counters key initial other = some row := by
  cases present : counters key with
  | some existing => simpa only [insertOrIgnore, present] using found
  | none =>
    have different : other ≠ key := by
      rintro rfl
      rw [present] at found
      cases found
    simpa only [insertOrIgnore, present, Function.update_of_ne different] using found

theorem insertOrIgnore_present : insertOrIgnore counters key initial key ≠ none := by
  cases present : counters key with
  | some existing => simp [insertOrIgnore, present]
  | none => simp [insertOrIgnore, present]

theorem counters_addSpend (found : addSpend counters key amount other = some row) :
    ∃ before, counters other = some before ∧ row.initialSpend = before.initialSpend ∧
      row.currentSpend = before.currentSpend + (if other = key then amount else 0) := by
  simp only [addSpend] at found
  by_cases different : other = key
  · subst different
    rw [Function.update_self] at found
    obtain ⟨before, foundBefore, rfl⟩ := Option.map_eq_some_iff.mp found
    exact ⟨before, foundBefore, rfl, by simp⟩
  · rw [Function.update_of_ne different] at found
    exact ⟨row, found, rfl, by simp [different]⟩

theorem addSpend_of_some (found : counters other = some row) :
    ∃ after, addSpend counters key amount other = some after ∧
      after.initialSpend = row.initialSpend := by
  simp only [addSpend]
  by_cases different : other = key
  · subst different
    exact ⟨{ row with currentSpend := row.currentSpend + amount },
      by rw [Function.update_self, found]; rfl, rfl⟩
  · exact ⟨row, by rw [Function.update_of_ne different]; exact found, rfl⟩

end Tables

variable {Request Engine : Type*} [DecidableEq Request]

/-! ## Views -/

namespace State

variable {s : State Request Engine} {i j : Request} {view : Counters}

theorem view_of_owner (opened : s.txn = some ⟨i, view⟩) : s.view i = view := by
  simp [State.view, opened]

theorem view_of_closed (closed : s.txn = none) : s.view i = s.committed := by
  simp [State.view, closed]

theorem view_of_other (opened : s.txn = some ⟨j, view⟩) (other : j ≠ i) :
    s.view i = s.committed := by
  simp [State.view, opened, other]

theorem mayWrite_cases (may : s.mayWrite i = true) :
    s.txn = none ∨ s.txn = some ⟨i, s.view i⟩ := by
  simp only [mayWrite] at may
  cases opened : s.txn with
  | none => exact Or.inl rfl
  | some txn =>
    rw [opened] at may
    obtain ⟨owner, view⟩ := txn
    obtain rfl : owner = i := by simpa using may
    rw [view_of_owner opened]
    exact Or.inr rfl

theorem view_congr {s' : State Request Engine} (committed : s'.committed = s.committed)
    (same : ∀ view, s'.txn = some ⟨j, view⟩ ↔ s.txn = some ⟨j, view⟩) :
    s'.view j = s.view j := by
  have reads : ∀ t : State Request Engine, (∃ view, t.txn = some ⟨j, view⟩) ∨
      t.view j = t.committed := by
    intro t
    rcases opened : t.txn with _ | ⟨owner, view⟩
    · exact Or.inr (view_of_closed opened)
    · by_cases other : owner = j
      · subst other
        exact Or.inl ⟨view, rfl⟩
      · exact Or.inr (view_of_other opened other)
  by_cases own : ∃ view, s.txn = some ⟨j, view⟩
  · obtain ⟨view, opened⟩ := own
    rw [view_of_owner opened, view_of_owner ((same view).mpr opened)]
  · have notOwn : ¬ ∃ view, s'.txn = some ⟨j, view⟩ := fun ⟨view, opened⟩ =>
      own ⟨view, (same view).mp opened⟩
    rw [(reads s).resolve_left own, (reads s').resolve_left notOwn, committed]

@[simp] theorem move_progress_self (next : Progress) : (s.move i next).progress i = next := by
  simp [State.move]

theorem move_progress_of_ne (next : Progress) (other : j ≠ i) :
    (s.move i next).progress j = s.progress j := by
  simp [State.move, other]

@[simp] theorem move_view (next : Progress) : (s.move i next).view j = s.view j := rfl

end State

namespace Workload

variable (w : Workload Request Engine)

section Sums

omit [DecidableEq Request] in
theorem share_of_not_admitted {i : Request} {progress : Progress} (entry : PolicyPeriod)
    (pending : progress.admitted = false) : w.share i progress entry = 0 := by
  simp [share, pending]

variable [Fintype Request]

theorem charged_move (s : State Request Engine) (i : Request) (next : Progress)
    (entry : PolicyPeriod) :
    w.charged (s.move i next) entry + w.share i (s.progress i) entry =
      w.charged s entry + w.share i next entry := by
  have before := Finset.add_sum_erase Finset.univ
    (fun j => w.share j (s.progress j) entry) (Finset.mem_univ i)
  have after := Finset.add_sum_erase Finset.univ
    (fun j => w.share j ((s.move i next).progress j) entry) (Finset.mem_univ i)
  have others : ∑ j ∈ Finset.univ.erase i, w.share j ((s.move i next).progress j) entry =
      ∑ j ∈ Finset.univ.erase i, w.share j (s.progress j) entry :=
    Finset.sum_congr rfl fun j member => by
      rw [State.move_progress_of_ne next (Finset.ne_of_mem_erase member)]
  rw [State.move_progress_self] at after
  simp only [charged]
  linarith

/-- A step that neither admits nor forgets a request leaves every sum as it is. -/
theorem charged_move_of_share (s : State Request Engine) {i : Request} {next : Progress}
    (same : ∀ entry, w.share i next entry = w.share i (s.progress i) entry) :
    w.charged (s.move i next) = w.charged s := by
  funext entry
  have moved := w.charged_move s i next entry
  rw [same entry] at moved
  exact add_right_cancel moved

end Sums

/-! ## The invariant -/

/-- The checked policies passed, and together with the rest they are the matched ones. -/
def Passed (i : Request) (checked : List (PolicyPeriod × Usd)) (rest : List PolicyPeriod) :
    Prop :=
  checked.map Prod.fst ++ rest = w.matching i ∧
    ∀ c ∈ checked, c.2 + w.estimatedCost i ≤ c.1.1.limitUsd

def Sound (i : Request) : Progress → Prop
  | .checking checked rest => w.Passed i checked rest
  | .seeding checked entry rest => w.Passed i checked (entry :: rest)
  | .inserting checked entry rest _ => w.Passed i checked (entry :: rest)
  | _ => True

/-- A transaction that has only created rows. -/
structure Seeded (committed view : Counters) : Prop where
  kept : ∀ key row, committed key = some row → view key = some row
  fresh : ∀ key row, committed key = none → view key = some row →
    row.currentSpend = row.initialSpend

/-- A transaction that has added the estimate of `i` to every matched counter but those of
    `rest`. -/
structure Reserved (committed : Counters) (charged : PolicyPeriod → Usd) (i : Request)
    (view : Counters) (rest : List PolicyPeriod) : Prop where
  kept : ∀ key row, committed key = some row →
    ∃ after, view key = some after ∧ after.initialSpend = row.initialSpend
  accounted : ∀ entry row, view (counterKey entry) = some row →
    row.initialSpend + charged entry ≤ row.currentSpend
  added : ∀ entry ∈ w.matching i, entry ∉ rest → ∀ row, view (counterKey entry) = some row →
    row.initialSpend + charged entry + w.estimatedCost i ≤ row.currentSpend
  within : ∀ entry ∈ w.matching i, ∀ row, view (counterKey entry) = some row →
    row.initialSpend + charged entry + w.estimatedCost i ≤ entry.1.limitUsd
  present : ∀ entry ∈ w.matching i, view (counterKey entry) ≠ none

def Pending (committed : Counters) (charged : PolicyPeriod → Usd) (i : Request)
    (view : Counters) : Progress → Prop
  | .reserving rest => w.Reserved committed charged i view rest
  | .leaving _ => True
  | .waiting => False
  | .finished _ => False
  | _ => Seeded committed view

structure Invariant [Fintype Request] (s : State Request Engine) : Prop where
  accounted : ∀ entry row, s.committed (counterKey entry) = some row →
    row.initialSpend + w.charged s entry ≤ row.currentSpend
  uncharged : ∀ entry, s.committed (counterKey entry) = none → w.charged s entry = 0
  safe : w.ReservationSafe s
  sound : ∀ i, w.Sound i (s.progress i)
  present : ∀ i, ∀ c ∈ (s.progress i).checked, s.view i (counterKey c.1) ≠ none
  writing : ∀ i rest, s.progress i = .reserving rest → ∃ view, s.txn = some ⟨i, view⟩
  transaction : ∀ i view, s.txn = some ⟨i, view⟩ →
    w.Pending s.committed (w.charged s) i view (s.progress i)

theorem Seeded.rfl' {committed : Counters} : Seeded committed committed :=
  ⟨fun _ _ found => found, fun _ _ absent found => by rw [absent] at found; cases found⟩

theorem Seeded.insert {committed view : Counters} (seeded : Seeded committed view)
    (key : CounterKey) (initial : Usd) :
    Seeded committed (insertOrIgnore view key initial) := by
  refine ⟨fun other row found => insertOrIgnore_of_some (seeded.kept other row found),
    fun other row absent found => ?_⟩
  obtain existing | ⟨-, rfl⟩ := counters_insertOrIgnore found
  · exact seeded.fresh other row absent existing
  · rfl

omit [DecidableEq Request] in
variable {w} in
theorem Reserved.add {committed view : Counters} {charged : PolicyPeriod → Usd} {i : Request}
    {entry : PolicyPeriod} {rest : List PolicyPeriod}
    (reserved : w.Reserved committed charged i view (entry :: rest)) :
    w.Reserved committed charged i
      (addSpend view (counterKey entry) (w.estimatedCost i)) rest := by
  -- the update adds the estimate to one counter, and to every entry that shares it
  have positive : 0 < w.estimatedCost i := (w.call i).positive
  refine ⟨?_, ?_, ?_, ?_, ?_⟩
  · intro key row found
    obtain ⟨before, foundBefore, sameBefore⟩ := reserved.kept key row found
    obtain ⟨after, foundAfter, sameAfter⟩ := addSpend_of_some foundBefore
    exact ⟨after, foundAfter, sameAfter.trans sameBefore⟩
  · intro other row found
    obtain ⟨before, foundBefore, initial, current⟩ := counters_addSpend found
    have accounted := reserved.accounted other before foundBefore
    rw [initial, current]
    split <;> linarith
  · intro other member rested row found
    obtain ⟨before, foundBefore, initial, current⟩ := counters_addSpend found
    rw [initial, current]
    by_cases different : other = entry
    · subst different
      have accounted := reserved.accounted other before foundBefore
      simp only [if_true]
      linarith
    · have added := reserved.added other member (by simp [different, rested]) before foundBefore
      split <;> linarith
  · intro other member row found
    obtain ⟨before, foundBefore, initial, -⟩ := counters_addSpend found
    rw [initial]
    exact reserved.within other member before foundBefore
  · intro other member
    obtain ⟨before, foundBefore⟩ := Option.ne_none_iff_exists'.mp (reserved.present other member)
    obtain ⟨after, foundAfter, -⟩ := @addSpend_of_some view (counterKey entry)
      (counterKey other) (w.estimatedCost i) before foundBefore
    simp [foundAfter]

section Compare

omit [DecidableEq Request]

variable {w} {i : Request} {checked : List (PolicyPeriod × Usd)} {entry : PolicyPeriod}
  {rest : List PolicyPeriod} {spend : Usd}

theorem sound_compare (passed : w.Passed i checked (entry :: rest)) (spend : Usd) :
    w.Sound i (w.compare i checked entry rest spend) := by
  simp only [compare]
  split
  · trivial
  · next fits =>
    refine ⟨by simpa using passed.1, fun c member => ?_⟩
    obtain member | member := List.mem_append.mp member
    · exact passed.2 c member
    · obtain rfl := List.mem_singleton.mp member
      exact not_lt.mp fits

theorem share_compare (other : PolicyPeriod) :
    w.share i (w.compare i checked entry rest spend) other = 0 := by
  apply w.share_of_not_admitted
  simp only [compare]
  split <;> rfl

theorem checked_compare {c : PolicyPeriod × Usd}
    (member : c ∈ (w.compare i checked entry rest spend).checked) :
    c ∈ checked ∨ c = (entry, spend) := by
  simp only [compare] at member
  split at member
  · cases member
  · simpa [Progress.checked] using member

theorem compare_ne_reserving (others : List PolicyPeriod) :
    w.compare i checked entry rest spend ≠ .reserving others := by
  simp only [compare]
  split <;> exact Progress.noConfusion

theorem pending_compare {committed view : Counters} {charged : PolicyPeriod → Usd}
    (seeded : Seeded committed view) :
    w.Pending committed charged i view (w.compare i checked entry rest spend) := by
  simp only [compare]
  split
  · trivial
  · exact seeded

end Compare

/-! ## What each kind of step preserves -/

namespace Invariant

variable {w} [Fintype Request] {s : State Request Engine} {i : Request}

/-- While `i` has only read and created rows, its view accounts for all that is charged. -/
theorem view_accounted (invariant : w.Invariant s)
    (seeded : ∀ view, s.txn = some ⟨i, view⟩ → Seeded s.committed view)
    (entry : PolicyPeriod) (row : Row) (found : s.view i (counterKey entry) = some row) :
    row.initialSpend + w.charged s entry ≤ row.currentSpend := by
  -- what `i` reads is the committed table, unless the open transaction is its own
  rcases opened : s.txn with _ | ⟨owner, view⟩
  · rw [State.view_of_closed opened] at found
    exact invariant.accounted entry row found
  by_cases other : owner = i
  · subst other
    rw [State.view_of_owner opened] at found
    -- a row of its own transaction is the committed one, or one it has created itself
    cases existing : s.committed (counterKey entry) with
    | some committedRow =>
      have kept := (seeded view opened).kept _ _ existing
      rw [found] at kept
      cases kept
      exact invariant.accounted entry row existing
    | none =>
      rw [invariant.uncharged entry existing, (seeded view opened).fresh _ _ existing found]
      simp
  · rw [State.view_of_other opened other] at found
    exact invariant.accounted entry row found

omit [Fintype Request] in
theorem view_kept (seeded : ∀ view, s.txn = some ⟨i, view⟩ → Seeded s.committed view) :
    Seeded s.committed (s.view i) := by
  rcases opened : s.txn with _ | ⟨owner, view⟩
  · rw [State.view_of_closed opened]
    exact Seeded.rfl'
  by_cases other : owner = i
  · subst other
    rw [State.view_of_owner opened]
    exact seeded view opened
  · rw [State.view_of_other opened other]
    exact Seeded.rfl'

/-- The frame of a step of `i`: it commits nothing, and leaves the other transactions and
    the other requests alone. -/
theorem framed (invariant : w.Invariant s) {s' : State Request Engine} {next : Progress}
    (committed : s'.committed = s.committed)
    (progress : s'.progress = Function.update s.progress i next)
    (others : ∀ j, j ≠ i → ∀ view, s'.txn = some ⟨j, view⟩ ↔ s.txn = some ⟨j, view⟩)
    (same : ∀ entry, w.share i next entry = w.share i (s.progress i) entry)
    (sound : w.Sound i next)
    (present : ∀ c ∈ next.checked, s'.view i (counterKey c.1) ≠ none)
    (writing : ∀ rest, next = .reserving rest → ∃ view, s'.txn = some ⟨i, view⟩)
    (pending : ∀ view, s'.txn = some ⟨i, view⟩ →
      w.Pending s.committed (w.charged s) i view next) :
    w.Invariant s' := by
  -- the new step takes no new share, so no counter owes more than before
  have charged : w.charged s' = w.charged s := by
    rw [← w.charged_move_of_share s same]
    funext entry
    simp only [Workload.charged, State.move, progress]
  have progress_of_ne : ∀ j, j ≠ i → s'.progress j = s.progress j := fun j other => by
    rw [progress, Function.update_of_ne other]
  have progress_self : s'.progress i = next := by rw [progress, Function.update_self]
  refine ⟨?_, ?_, ?_, ?_, ?_, ?_, ?_⟩
  · rw [charged, committed]; exact invariant.accounted
  · rw [charged, committed]; exact invariant.uncharged
  · simp only [ReservationSafe]
    rw [charged, committed]; exact invariant.safe
  · intro j
    by_cases other : j = i
    · subst other
      rwa [progress_self]
    · rw [progress_of_ne j other]; exact invariant.sound j
  · intro j
    by_cases other : j = i
    · subst other
      rwa [progress_self]
    · rw [progress_of_ne j other, State.view_congr committed (others j other)]
      exact invariant.present j
  · intro j rest reserving
    by_cases other : j = i
    · subst other
      exact writing rest (progress_self ▸ reserving)
    · rw [progress_of_ne j other] at reserving
      obtain ⟨view, opened⟩ := invariant.writing j rest reserving
      exact ⟨view, (others j other view).mpr opened⟩
  · intro j view opened
    rw [charged, committed]
    by_cases other : j = i
    · subst other
      rw [progress_self]; exact pending view opened
    · rw [progress_of_ne j other]
      exact invariant.transaction j view ((others j other view).mp opened)

theorem move (invariant : w.Invariant s) {next : Progress}
    (same : ∀ entry, w.share i next entry = w.share i (s.progress i) entry)
    (sound : w.Sound i next)
    (present : ∀ c ∈ next.checked, s.view i (counterKey c.1) ≠ none)
    (notReserving : ∀ rest, next ≠ .reserving rest)
    (pending : ∀ view, s.txn = some ⟨i, view⟩ →
      w.Pending s.committed (w.charged s) i view next) :
    w.Invariant (s.move i next) :=
  invariant.framed rfl rfl (fun _ _ _ => Iff.rfl) same sound present
    (fun rest reserving => absurd reserving (notReserving rest)) pending

theorem write (invariant : w.Invariant s) (may : s.mayWrite i = true) {view : Counters}
    {next : Progress}
    (same : ∀ entry, w.share i next entry = w.share i (s.progress i) entry)
    (sound : w.Sound i next)
    (present : ∀ c ∈ next.checked, view (counterKey c.1) ≠ none)
    (pending : w.Pending s.committed (w.charged s) i view next) :
    w.Invariant ((s.write i view).move i next) := by
  refine invariant.framed rfl rfl (fun j other otherView => ?_) same sound ?_
    (fun _ _ => ⟨view, rfl⟩) (fun otherView opened => ?_)
  · constructor
    · intro opened; cases opened; exact absurd rfl other
    · intro opened
      obtain closed | own := State.mayWrite_cases may
      · rw [closed] at opened; cases opened
      · rw [own] at opened; cases opened; exact absurd rfl other
  · rwa [State.move_view, State.view_of_owner rfl]
  · cases opened; exact pending

theorem close (invariant : w.Invariant s) [DecidableEq Engine] {outcome : CheckOutcome}
    (leaving : s.progress i = .leaving outcome) (engine : Engine) :
    w.Invariant ((s.close i engine).move i (.finished outcome)) := by
  refine invariant.framed rfl rfl (fun j other view => ?_) (fun entry => ?_) trivial
    (fun c member => nomatch member) (fun rest reserving => nomatch reserving)
    (fun view opened => ?_)
  · simp [State.close, State.move, Option.filter_eq_some_iff, other]
  · rw [leaving]; cases outcome <;> rfl
  · simp [State.close, State.move, Option.filter_eq_some_iff] at opened

theorem commit (invariant : w.Invariant s) (reserved : s.progress i = .reserving []) :
    w.Invariant ((s.commit i).move i (.leaving .allowed)) := by
  obtain ⟨view, opened⟩ := invariant.writing i [] reserved
  have pending := invariant.transaction i view opened
  rw [reserved] at pending
  have committed : ((s.commit i).move i (.leaving .allowed)).committed = view :=
    State.view_of_owner opened
  have closed : ((s.commit i).move i (.leaving .allowed)).txn = none := by
    simp [State.commit, State.move, opened]
  have charged : ∀ entry, w.charged ((s.commit i).move i (.leaving .allowed)) entry =
      w.charged s entry + (if entry ∈ w.matching i then w.estimatedCost i else 0) := by
    intro entry
    -- before the commit the share of `i` is nothing, after it the estimate
    have moved := w.charged_move (s.commit i) i (.leaving .allowed) entry
    have before : w.share i ((s.commit i).progress i) entry = 0 :=
      w.share_of_not_admitted entry (by
        change (s.progress i).admitted = false
        rw [reserved]; rfl)
    rw [before, add_zero] at moved
    rw [moved]
    simp [share, Progress.admitted]
    rfl
  refine ⟨?_, ?_, ?_, ?_, ?_, ?_, ?_⟩
  · intro entry row found
    rw [committed] at found
    rw [charged entry, ← add_assoc]
    split
    · next member => exact pending.added entry member (by simp) row found
    · simpa using pending.accounted entry row found
  · intro entry absent
    rw [committed] at absent
    -- a counter that is still missing is none of those that `i` has updated
    have unmatched : entry ∉ w.matching i := fun member => pending.present entry member absent
    have uncommitted : s.committed (counterKey entry) = none := by
      by_contra found
      obtain ⟨row, found⟩ := Option.ne_none_iff_exists'.mp found
      obtain ⟨after, foundAfter, -⟩ := pending.kept _ row found
      rw [absent] at foundAfter
      cases foundAfter
    rw [charged entry, invariant.uncharged entry uncommitted]
    simp [unmatched]
  · intro entry row found within
    rw [committed] at found
    rw [charged entry, ← add_assoc]
    split
    -- a matched counter was checked together with the estimate; any other one is as before
    · next member => exact pending.within entry member row found
    · cases existing : s.committed (counterKey entry) with
      | none => simpa [invariant.uncharged entry existing] using within
      | some before =>
        obtain ⟨after, foundAfter, sameInitial⟩ := pending.kept _ before existing
        rw [found] at foundAfter
        cases foundAfter
        rw [sameInitial] at within ⊢
        simpa using invariant.safe entry before existing within
  · intro j
    by_cases other : j = i
    · subst other
      rw [State.move_progress_self]; trivial
    · rw [State.move_progress_of_ne _ other]; exact invariant.sound j
  · intro j c member
    rcases eq_or_ne j i with rfl | other
    · rw [State.move_progress_self] at member; exact nomatch member
    · rw [State.move_progress_of_ne _ other] at member
      have before := invariant.present j c member
      rw [State.view_of_other opened other.symm] at before
      obtain ⟨row, found⟩ := Option.ne_none_iff_exists'.mp before
      obtain ⟨after, foundAfter, -⟩ := pending.kept _ row found
      rw [State.view_of_closed closed, committed, foundAfter]
      exact Option.some_ne_none after
  · intro j rest reserving
    by_cases other : j = i
    · subst other
      rw [State.move_progress_self] at reserving; cases reserving
    · rw [State.move_progress_of_ne _ other] at reserving
      -- only one transaction is open, and that is the one of `i`
      obtain ⟨otherView, otherOpened⟩ := invariant.writing j rest reserving
      rw [opened] at otherOpened
      cases otherOpened
      exact absurd rfl other
  · intro j otherView otherOpened
    rw [closed] at otherOpened
    cases otherOpened

/-- A reservation that starts while the checks are fresh stays within every limit. -/
theorem reserved_of_fresh (invariant : w.Invariant s) {checked : List (PolicyPeriod × Usd)}
    (checking : s.progress i = .checking checked [])
    (fresh : ∀ c ∈ checked,
      (s.view i (counterKey c.1)).all fun row => row.currentSpend ≤ c.2) :
    w.Reserved s.committed (w.charged s) i (s.view i) (w.matching i) := by
  have seeded : ∀ view, s.txn = some ⟨i, view⟩ → Seeded s.committed view := by
    intro view opened
    have pending := invariant.transaction i view opened
    rwa [checking] at pending
  have sound := invariant.sound i
  rw [checking] at sound
  obtain ⟨all, passed⟩ := sound
  have matched : ∀ entry ∈ w.matching i, ∃ spend, (entry, spend) ∈ checked := by
    intro entry member
    rw [← all, List.append_nil] at member
    obtain ⟨c, member, same⟩ := List.mem_map.mp member
    exact ⟨c.2, same ▸ member⟩
  refine ⟨fun key row found => ⟨row, (view_kept seeded).kept key row found, rfl⟩,
    invariant.view_accounted seeded, fun entry member rested => absurd member rested, ?_, ?_⟩
  · intro entry member row found
    obtain ⟨spend, member⟩ := matched entry member
    have accounted := invariant.view_accounted seeded entry row found
    -- the counter stands where the check saw it, and there the estimate fits
    have current := fresh _ member
    simp only [found, Option.all_some, decide_eq_true_eq] at current
    have fits := passed _ member
    simp only at fits
    linarith
  · intro entry member
    obtain ⟨spend, member⟩ := matched entry member
    have present := invariant.present i (entry, spend)
    rw [checking] at present
    exact present member

theorem reserve (invariant : w.Invariant s) {s' : State Request Engine} {entry : PolicyPeriod}
    {rest : List PolicyPeriod} (pendingBefore : (s.progress i).admitted = false)
    (reserved : w.Reserved s.committed (w.charged s) i (s.view i) (entry :: rest))
    (stepped : w.reserve s i entry rest = some s') : w.Invariant s' := by
  simp only [Workload.reserve] at stepped
  split at stepped
  · next may =>
    cases stepped
    exact invariant.write may
      (fun other => by rw [w.share_of_not_admitted other pendingBefore]; rfl) trivial
      (fun c member => nomatch member) reserved.add
  · cases stepped

end Invariant

variable [DecidableEq Engine]

/-- The label does not start a reservation on a stale check: when the first `UPDATE` runs,
    no counter stands above the spend it was compared by. -/
def FreshCheck (s : State Request Engine) : Label Request → Prop
  | .advance i => ∀ c ∈ (s.progress i).reliesOn,
      (s.view i (counterKey c.1)).all fun row => row.currentSpend ≤ c.2
  | _ => True

instance (s : State Request Engine) : (label : Label Request) → Decidable (FreshCheck s label)
  | .advance i => inferInstanceAs (Decidable (∀ c ∈ (s.progress i).reliesOn, _))
  | .fail _ => isTrue trivial
  | .unreadable _ => isTrue trivial
  | .record _ => isTrue trivial

variable {w} [Fintype Request]

theorem Invariant.advance {s s' : State Request Engine} {i : Request}
    (invariant : w.Invariant s) (fresh : FreshCheck s (.advance i))
    (stepped : w.advance s i = some s') : w.Invariant s' := by
  have sound := invariant.sound i
  have pending := invariant.transaction i
  have present := invariant.present i
  simp only [Workload.advance] at stepped
  cases at_ : s.progress i with
  | waiting =>
    rw [at_] at stepped pending
    have unchanged : ∀ next : Progress, next.admitted = false → ∀ entry,
        w.share i next entry = w.share i (s.progress i) entry := fun next notAdmitted entry => by
      rw [w.share_of_not_admitted entry notAdmitted, at_,
        w.share_of_not_admitted entry rfl]
    simp only at stepped
    split at stepped
    · next unmatched =>
      cases stepped
      refine invariant.move (fun entry => ?_) trivial (fun c member => nomatch member)
        (fun rest reserving => nomatch reserving) (fun view opened => (pending view opened).elim)
      rw [at_]
      simp [share, unmatched]
    · split at stepped
      · cases stepped
        -- the lock of the engine is in no field of the invariant
        have locked : w.Invariant
            { s with lock := Function.update s.lock (w.engine i) (some i) } :=
          ⟨invariant.accounted, invariant.uncharged, invariant.safe, invariant.sound,
            invariant.present, invariant.writing, invariant.transaction⟩
        exact locked.move (unchanged _ rfl) ⟨rfl, fun c member => nomatch member⟩
          (fun c member => nomatch member) (fun rest reserving => nomatch reserving)
          (fun view opened => (pending view opened).elim)
      · cases stepped
  | checking checked rest =>
    rw [at_] at stepped pending sound present
    cases rest with
    | nil =>
      -- the checks are over: this is where a stale one would let the reservation start
      have reserved := invariant.reserved_of_fresh at_ (by simpa [FreshCheck, at_, Progress.reliesOn] using fresh)
      simp only at stepped
      cases matched : w.matching i with
      | nil => rw [matched] at stepped; cases stepped
      | cons entry rest =>
        rw [matched] at stepped reserved
        exact invariant.reserve (by rw [at_]; rfl) reserved stepped
    | cons entry rest =>
      simp only at stepped
      cases selected : s.view i (counterKey entry) with
      | some row =>
        rw [selected] at stepped
        cases stepped
        refine invariant.move (fun other => ?_) (sound_compare sound _) (fun c member => ?_)
          compare_ne_reserving (fun view opened => pending_compare (pending view opened))
        · rw [share_compare, at_]; rfl
        · obtain earlier | rfl := checked_compare member
          · exact present c earlier
          · rw [selected]; exact Option.some_ne_none row
      | none =>
        rw [selected] at stepped
        cases stepped
        exact invariant.move (fun other => by rw [at_]; rfl) sound present
          (fun rest reserving => nomatch reserving) pending
  | seeding checked entry rest =>
    rw [at_] at stepped pending sound present
    cases stepped
    exact invariant.move (fun other => by rw [at_]; rfl) sound present
      (fun rest reserving => nomatch reserving) pending
  | inserting checked entry rest initial =>
    rw [at_] at stepped pending sound present
    simp only at stepped
    split at stepped
    · next may =>
      cases stepped
      -- the new row starts at the recorded spend, which is compared at once
      have seeded := @Invariant.view_kept Request Engine _ s i pending
      refine invariant.write may (fun other => ?_) (sound_compare sound _) (fun c member => ?_)
        (pending_compare (seeded.insert _ _))
      · rw [share_compare, at_]; rfl
      · obtain earlier | rfl := checked_compare member
        · obtain ⟨row, found⟩ := Option.ne_none_iff_exists'.mp (present c earlier)
          rw [insertOrIgnore_of_some found]
          exact Option.some_ne_none row
        · exact insertOrIgnore_present
    · cases stepped
  | reserving rest =>
    obtain ⟨view, opened⟩ := invariant.writing i rest at_
    rw [at_] at stepped pending
    have reserved := pending view opened
    cases rest with
    | nil =>
      cases stepped
      exact invariant.commit at_
    | cons entry rest =>
      rw [← State.view_of_owner opened] at reserved
      exact invariant.reserve (by rw [at_]; rfl) reserved stepped
  | leaving outcome =>
    rw [at_] at stepped
    cases stepped
    exact invariant.close at_ (w.engine i)
  | finished outcome =>
    rw [at_] at stepped
    cases stepped

omit [DecidableEq Engine] in
theorem Invariant.fail {s s' : State Request Engine} {i : Request} (invariant : w.Invariant s)
    (stepped : s.fail i = some s') : w.Invariant s' := by
  have pending := invariant.transaction i
  have leave : (s.progress i).admitted = false →
      w.Invariant (s.move i (.leaving .raised)) := fun notAdmitted =>
    invariant.move (fun entry => by rw [w.share_of_not_admitted entry notAdmitted]; rfl) trivial
      (fun c member => nomatch member) (fun rest reserving => nomatch reserving)
      (fun _ _ => trivial)
  simp only [State.fail] at stepped
  cases at_ : s.progress i with
  | waiting =>
    rw [at_] at stepped pending
    cases stepped
    exact invariant.move (fun entry => by rw [at_]; rfl) trivial (fun c member => nomatch member)
      (fun rest reserving => nomatch reserving) (fun view opened => (pending view opened).elim)
  | leaving outcome => simp only [at_, reduceCtorEq] at stepped
  | finished outcome => simp only [at_, reduceCtorEq] at stepped
  | _ =>
    rw [at_] at stepped leave
    cases stepped
    exact leave rfl

theorem Invariant.step {s s' : State Request Engine} {label : Label Request}
    (invariant : w.Invariant s) (fresh : FreshCheck s label)
    (stepped : w.machine.step s label = some s') : w.Invariant s' := by
  cases label with
  | advance i => exact invariant.advance fresh stepped
  | fail i => exact invariant.fail stepped
  | unreadable i =>
    have sound := invariant.sound i
    have pending := invariant.transaction i
    have present := invariant.present i
    simp only [machine] at stepped
    cases at_ : s.progress i with
    | seeding checked entry rest =>
      simp only [at_] at stepped sound pending present
      cases stepped
      exact invariant.move (fun other => by rw [at_]; rfl) sound present
        (fun rest reserving => nomatch reserving) pending
    | _ => simp only [at_, reduceCtorEq] at stepped
  | record recorded =>
    cases stepped
    exact ⟨invariant.accounted, invariant.uncharged, invariant.safe, invariant.sound,
      invariant.present, invariant.writing, invariant.transaction⟩

omit [DecidableEq Engine] in
theorem invariant_start (rows : CounterKey → Option Usd)
    (recorded : BudgetPolicy → Time → Usd) :
    w.Invariant (start rows recorded : State Request Engine) := by
  have uncharged : ∀ entry, w.charged (start rows recorded : State Request Engine) entry = 0 :=
    fun entry => Finset.sum_eq_zero fun i _ => w.share_of_not_admitted entry rfl
  refine ⟨fun entry row found => ?_, fun entry _ => uncharged entry,
    fun entry row found within => ?_, fun i => trivial, fun i c member => (nomatch member),
    fun i rest reserving => (nomatch reserving), fun i view opened => (nomatch opened)⟩
  · obtain ⟨spend, -, rfl⟩ := Option.map_eq_some_iff.mp found
    rw [uncharged entry, add_zero]
  · rw [uncharged entry, add_zero]; exact within

/-- Reservation safety: in every state that a run without a stale check reaches. -/
theorem reservation_safe (w : Workload Request Engine) (rows : CounterKey → Option Usd)
    (recorded : BudgetPolicy → Time → Usd) (schedule : List (Label Request))
    (s : State Request Engine) (fresh : w.machine.Guarded FreshCheck (start rows recorded) schedule)
    (ran : w.machine.run (start rows recorded) schedule = some s) : w.ReservationSafe s :=
  have preserves : w.machine.Preserves FreshCheck w.Invariant :=
    fun _ _ _ invariant fresh stepped => invariant.step fresh stepped
  (preserves.run w.machine (invariant_start rows recorded) fresh ran).safe

end Workload

/-! ## Two engines, two locks -/

section TwoRequests

def sharedPolicy : BudgetPolicy :=
  { name := "org-daily", scope := "model", target := "*", limitUsd := 10, period := "daily" }

def sixDollarCall : Call where
  model := "gpt-4o"
  context := ⟨none, none, none, none⟩
  now := 0
  estimatedCost := 6
  positive := by decide +kernel

/-- Two requests, each with the engine that `handle_request` builds for it. -/
def twoRequests : Workload Bool Bool where
  policies := [sharedPolicy]
  call _ := sixDollarCall
  engine := id

def emptyCounter : CounterKey → Option Usd :=
  fun key => if key = ⟨"org-daily", 0⟩ then some 0 else none

def bothCheckFirst : List (Label Bool) :=
  [.advance false, .advance true, .advance false, .advance true,
   .advance false, .advance false, .advance false,
   .advance true, .advance true, .advance true]

/-- Both are admitted, for 12 dollars against a limit of 10. -/
theorem both_requests_admitted :
    ∃ s, twoRequests.machine.run (Workload.start emptyCounter fun _ _ => 0) bothCheckFirst =
        some s ∧ ¬ twoRequests.ReservationSafe s := by
  have overspent : (twoRequests.machine.run (Workload.start emptyCounter fun _ _ => 0)
      bothCheckFirst).any (fun s => s.committed ⟨"org-daily", 0⟩ = some ⟨12, 0⟩ ∧
        twoRequests.charged s (sharedPolicy, 0) = 12) = true := by
    decide +kernel
  obtain ⟨s, ran, overspent⟩ := (Option.any_eq_true _ _).mp overspent
  obtain ⟨counter, charged⟩ := of_decide_eq_true overspent
  refine ⟨s, ran, fun safe => ?_⟩
  have within := safe (sharedPolicy, 0) ⟨12, 0⟩ counter (by decide +kernel)
  rw [charged] at within
  exact absurd within (by decide +kernel)

def inTurn : List (Label Bool) :=
  [.advance false, .advance false, .advance false, .advance false, .advance false,
   .advance true, .advance true, .advance true]

theorem reservation_safe_in_turn :
    ∃ s, twoRequests.machine.run (Workload.start emptyCounter fun _ _ => 0) inTurn = some s ∧
      twoRequests.ReservationSafe s := by
  obtain ⟨s, ran⟩ := Option.isSome_iff_exists.mp (by decide +kernel :
    (twoRequests.machine.run (Workload.start emptyCounter fun _ _ => 0) inTurn).isSome = true)
  exact ⟨s, ran, Workload.reservation_safe twoRequests emptyCounter (fun _ _ => 0) inTurn s
    (by decide +kernel) ran⟩

end TwoRequests

end BurnLens.Budget
