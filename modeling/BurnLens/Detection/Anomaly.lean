import BurnLens.Config
import BurnLens.Library.Json
import BurnLens.Library.Window
import Mathlib.Data.Nat.Find
import Mathlib.Data.Real.Basic
import Mathlib.Tactic.Linarith

/-! # The densest span

`max_requests_in_span` slides a window over instants in ascending order.  Its left end is the first
instant that is no more than a span before the right one, so the widest window has as many
instants as any interval of that length, wherever the interval begins.
-/

namespace BurnLens.Detection

open Library

/-- `while t - times[left] > span: left += 1`, on the times from the left index on. -/
def advanceLeft (span t : Int) : List Time → (left : Nat) → Except Raised Nat
  | [], _ => .error ⟨"IndexError", "list index out of range"⟩
  | first :: rest, left =>
    if span < t - first then advanceLeft span t rest (left + 1) else .ok left

/-- The loop over the right end of the window. -/
def slide (times : List Time) (span : Int) : List Time → (right left : Nat) → (best : Int) →
    Except Raised Int
  | [], _, _, best => .ok best
  | t :: rest, right, left, best => do
    let left ← advanceLeft span t (times.drop left) left
    slide times span rest (right + 1) left (max best ((right : Int) - left + 1))

def maxRequestsInSpan (times : List Time) (span : Int) : Except Raised Int :=
  slide times span times 0 0 0

section

variable {times : List Time} {span : Int} {left right : Nat}

/-- The left end stops before the right one, at the first instant within the span. -/
theorem advanceLeft_least {t : Int} (nonneg : 0 ≤ span) (here : times[right]? = some t)
    (order : left ≤ right) (skipped : ∀ j (s : Int), j < left → times[j]? = some s → span < t - s) :
    ∃ next, advanceLeft span t (times.drop left) left = .ok next ∧ left ≤ next ∧ next ≤ right ∧
      (∀ j (s : Int), j < next → times[j]? = some s → span < t - s) ∧
      ∀ s : Int, times[next]? = some s → t - s ≤ span := by
  have bound : right < times.length := (List.getElem?_eq_some_iff.mp here).1
  generalize distance : right - left = d
  induction d generalizing left with
  | zero =>
    have same : left = right := by omega
    subst same
    rw [List.drop_eq_getElem_cons bound, advanceLeft]
    have first : (times[left] : Int) = t := (List.getElem?_eq_some_iff.mp here).2
    simp only [first]
    rw [if_neg (by omega)]
    exact ⟨left, rfl, le_rfl, le_rfl, skipped, by simp [here, nonneg]⟩
  | succ d inductionHypothesis =>
    rw [List.drop_eq_getElem_cons (by omega), advanceLeft]
    split
    · next far =>
      have further : ∀ j (s : Int), j < left + 1 → times[j]? = some s → span < t - s := by
        intro j s less found
        by_cases old : j < left
        · exact skipped j s old found
        · have same : j = left := by omega
          subst same
          rw [List.getElem?_eq_getElem (by omega)] at found
          cases found
          exact far
      obtain ⟨next, ran, least, most, rest⟩ := inductionHypothesis (by omega) further (by omega)
      exact ⟨next, ran, by omega, most, rest⟩
    · next near =>
      have within : ∀ s : Int, times[left]? = some s → t - s ≤ span := by
        intro s found
        rw [List.getElem?_eq_getElem (by omega)] at found
        cases found
        omega
      exact ⟨left, rfl, le_rfl, order, skipped, within⟩

end

/-! ## The windows -/

section

variable (times : List Time) (span : Int)

/-- A window of this many instants no more than a span apart, which ends before an index. -/
def Spanned (right : Nat) (count : Int) : Prop :=
  ∃ (i j : Nat) (s t : Int), i ≤ j ∧ j < right ∧ times[i]? = some s ∧ times[j]? = some t ∧ t - s ≤ span ∧
    count = j - i + 1

/-- What the loop knows before an index. -/
structure Slid (right left : Nat) (best : Int) : Prop where
  order : left ≤ right
  skipped : ∀ (i j : Nat) (s t : Int), i < left → right ≤ j → times[i]? = some s → times[j]? = some t → span < t - s
  most : ∀ count, Spanned times span right count → count ≤ best
  reached : best = 0 ∧ right = 0 ∨ Spanned times span right best

end

variable {times : List Time} {span : Int}

theorem le_of_sorted (sorted : times.Pairwise (· ≤ ·)) {i j : Nat} {s t : Int} (order : i ≤ j)
    (foundLeft : times[i]? = some s) (foundRight : times[j]? = some t) : s ≤ t := by
  obtain ⟨boundLeft, rfl⟩ := List.getElem?_eq_some_iff.mp foundLeft
  obtain ⟨boundRight, rfl⟩ := List.getElem?_eq_some_iff.mp foundRight
  by_cases same : i = j
  · subst same
    exact le_rfl
  · exact List.pairwise_iff_getElem.mp sorted i j boundLeft boundRight (by omega)

theorem slid_start : Slid times span 0 0 0 where
  order := le_rfl
  skipped := by intro i j s t less; omega
  most := by
    intro count spanned
    obtain ⟨i, j, s, t, order, bound, rest⟩ := spanned
    omega
  reached := .inl ⟨rfl, rfl⟩

/-- One step of the loop: the window that ends at the index is the widest that does. -/
theorem Slid.step {right left : Nat} {best t : Int} (slid : Slid times span right left best)
    (sorted : times.Pairwise (· ≤ ·)) (nonneg : 0 ≤ span) (here : times[right]? = some t) :
    ∃ next, advanceLeft span t (times.drop left) left = .ok next ∧
      Slid times span (right + 1) next (max best ((right : Int) - next + 1)) := by
  have before : ∀ j (s : Int), j < left → times[j]? = some s → span < t - s :=
    fun j s less found => slid.skipped j right s t less le_rfl found here
  obtain ⟨next, ran, least, order, skipped, within⟩ :=
    advanceLeft_least nonneg here slid.order before
  obtain ⟨first, found⟩ : ∃ s : Int, times[next]? = some s := by
    have bound : right < times.length := (List.getElem?_eq_some_iff.mp here).1
    exact ⟨_, List.getElem?_eq_getElem (by omega)⟩
  have window : Spanned times span (right + 1) ((right : Int) - next + 1) :=
    ⟨next, right, first, t, order, by omega, found, here, within first found, rfl⟩
  refine ⟨next, ran, by omega, ?_, ?_, ?_⟩
  · -- later instants are no earlier than this one
    intro i j s u less later foundLeft foundRight
    have far := skipped i s less foundLeft
    have up := le_of_sorted sorted (by omega) here foundRight
    omega
  · intro count spanned
    obtain ⟨i, j, s, u, below, bound, foundLeft, foundRight, near, rfl⟩ := spanned
    by_cases last : j = right
    · subst last
      rw [here] at foundRight
      cases foundRight
      have admissible : ¬ i < next := by
        intro less
        have := skipped i s less foundLeft
        omega
      omega
    · have := slid.most _ ⟨i, j, s, u, below, by omega, foundLeft, foundRight, near, rfl⟩
      omega
  · by_cases grows : best ≤ (right : Int) - next + 1
    · rw [max_eq_right grows]
      exact .inr window
    · cases slid.reached with
      | inl start => omega
      | inr spanned =>
        rw [max_eq_left (by omega)]
        obtain ⟨i, j, s, u, below, bound, rest⟩ := spanned
        exact .inr ⟨i, j, s, u, below, by omega, rest⟩

/-- The whole loop: no index is outside of the list, and the widest window is found. -/
theorem Slid.run {done rest : List Time} {left : Nat} {best : Int}
    (slid : Slid (done ++ rest) span done.length left best)
    (sorted : (done ++ rest).Pairwise (· ≤ ·)) (nonneg : 0 ≤ span) :
    ∃ last most, slide (done ++ rest) span rest done.length left best = .ok most ∧
      Slid (done ++ rest) span (done ++ rest).length last most := by
  induction rest generalizing done left best with
  | nil =>
    rw [List.append_nil] at slid ⊢
    exact ⟨left, best, rfl, slid⟩
  | cons t rest inductionHypothesis =>
    have here : (done ++ t :: rest)[done.length]? = some t := by simp
    obtain ⟨next, ran, stepped⟩ := slid.step sorted nonneg here
    have whole : done ++ t :: rest = (done ++ [t]) ++ rest := by simp
    have length : done.length + 1 = (done ++ [t]).length := by simp
    rw [slide, ran]
    rw [whole, length] at stepped
    rw [whole] at sorted ⊢
    obtain ⟨last, most, slid, rest⟩ := inductionHypothesis stepped sorted
    rw [← length] at slid
    exact ⟨last, most, slid, rest⟩

theorem maxRequestsInSpan_widest (sorted : times.Pairwise (· ≤ ·)) (nonneg : 0 ≤ span) :
    ∃ last most, maxRequestsInSpan times span = .ok most ∧
      Slid times span times.length last most := by
  have start : Slid ([] ++ times) span ([] : List Time).length 0 0 := slid_start
  exact start.run sorted nonneg

/-! ## Intervals -/

open Classical in
/-- Whether an instant is in the closed interval of this length. -/
noncomputable def inInterval (start : ℝ) (span : Int) (t : Time) : Bool :=
  start ≤ (t : ℝ) ∧ (t : ℝ) ≤ start + (span : ℝ)

theorem inInterval_iff {start : ℝ} {t : Int} :
    inInterval start span t = true ↔ start ≤ (t : ℝ) ∧ (t : ℝ) ≤ start + (span : ℝ) := by
  simp [inInterval]

noncomputable def requestsWithin (times : List Time) (start : ℝ) (span : Int) : Nat :=
  times.countP (inInterval start span)

/-- An index at which the instant is in the interval. -/
def Inside (times : List Time) (start : ℝ) (span : Int) (k : Nat) : Prop :=
  ∃ t : Int, times[k]? = some t ∧ inInterval start span t = true

theorem Inside.bound {start : ℝ} {k : Nat} (inside : Inside times start span k) :
    k < times.length := by
  obtain ⟨t, here, -⟩ := inside
  exact (List.getElem?_eq_some_iff.mp here).1

theorem requestsWithin_le {best : Int} {left : Nat} (slid : Slid times span times.length left best)
    (start : ℝ) : requestsWithin times start span ≤ best := by
  classical
  by_cases some : ∃ k, Inside times start span k
  · -- from the first instant in the interval to the last one
    have first := Nat.find_spec some
    have last := Nat.findGreatest_spec (P := Inside times start span) first.bound.le first
    obtain ⟨s, foundLeft, above⟩ := first
    obtain ⟨t, foundRight, below⟩ := id last
    rw [inInterval_iff] at above below
    have order : Nat.find some ≤ Nat.findGreatest (Inside times start span) times.length :=
      Nat.find_min' some last
    have near : t - s ≤ span := by
      have : (t : ℝ) - s ≤ span := by linarith
      exact_mod_cast this
    have most := slid.most _ ⟨_, _, s, t, order, last.bound, foundLeft, foundRight, near, rfl⟩
    have within : ∀ k (t : Int), times[k]? = Option.some t → inInterval start span t = true →
        Nat.find some ≤ k ∧ k ≤ Nat.findGreatest (Inside times start span) times.length := by
      intro k t here holds
      have inside : Inside times start span k := ⟨t, here, holds⟩
      exact ⟨Nat.find_min' some inside, Nat.le_findGreatest inside.bound.le inside⟩
    have := countP_le_window within
    rw [requestsWithin]
    omega
  · have zero : requestsWithin times start span = 0 := by
      rw [requestsWithin, List.countP_eq_zero]
      intro t member holds
      obtain ⟨k, here⟩ := List.mem_iff_getElem?.mp member
      exact some ⟨k, t, here, holds⟩
    have nonneg : 0 ≤ best := by
      cases slid.reached with
      | inl start => omega
      | inr spanned =>
        obtain ⟨i, j, s, t, order, rest⟩ := spanned
        omega
    omega

/-- The interval that ends where a window does has all the instants of the window. -/
theorem le_requestsWithin {right : Nat} {count : Int} (spanned : Spanned times span right count)
    (sorted : times.Pairwise (· ≤ ·)) : ∃ start, count ≤ requestsWithin times start span := by
  classical
  obtain ⟨i, j, s, t, order, -, foundLeft, foundRight, near, rfl⟩ := spanned
  have bound := (List.getElem?_eq_some_iff.mp foundRight).1
  have inside : ∀ k (u : Int), i ≤ k → k ≤ j → times[k]? = some u →
      inInterval ((t - span : Int) : ℝ) span u = true := by
    intro k u least most here
    have up := le_of_sorted sorted least foundLeft here
    have down := le_of_sorted sorted most here foundRight
    have low : t - span ≤ u := by omega
    have high : u ≤ t - span + span := by omega
    rw [inInterval_iff]
    exact ⟨by exact_mod_cast low, by exact_mod_cast high⟩
  have := window_le_countP bound inside
  refine ⟨((t - span : Int) : ℝ), ?_⟩
  rw [requestsWithin]
  omega

/-- The window finds the densest interval, and every index is in the list. -/
theorem max_requests_densest (times : List Time) (span : Int) (sorted : times.Pairwise (· ≤ ·))
    (nonneg : 0 ≤ span) : ∃ most : Nat, maxRequestsInSpan times span = .ok (most : Int) ∧
      IsGreatest {count | ∃ start : ℝ, count = requestsWithin times start span} most := by
  obtain ⟨last, best, ran, slid⟩ := maxRequestsInSpan_widest sorted nonneg
  have bounded := requestsWithin_le slid
  have attained : ∃ start, best = requestsWithin times start span := by
    cases slid.reached with
    | inl empty =>
      obtain ⟨zero, nothing⟩ := empty
      have := bounded 0
      exact ⟨0, by omega⟩
    | inr spanned =>
      obtain ⟨start, least⟩ := le_requestsWithin spanned sorted
      exact ⟨start, le_antisymm least (bounded start)⟩
  obtain ⟨start, rfl⟩ := attained
  refine ⟨_, ran, ⟨start, rfl⟩, ?_⟩
  rintro count ⟨other, rfl⟩
  exact_mod_cast bounded other

theorem three_in_a_minute : ([0, 30, 60, 60, 200] : List Time).Pairwise (· ≤ ·) ∧
    ∃ most : Nat, maxRequestsInSpan [0, 30, 60, 60, 200] 60 = .ok (most : Int) ∧
      IsGreatest {count | ∃ start : ℝ, count = requestsWithin [0, 30, 60, 60, 200] start 60} most :=
  ⟨by decide, max_requests_densest [0, 30, 60, 60, 200] 60 (by decide) (by decide)⟩

end BurnLens.Detection
