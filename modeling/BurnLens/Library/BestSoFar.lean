import Mathlib.Order.Lattice

/-! # The best so far

A loop over items that keeps one of them: an eligible item replaces the one kept, by a rule that
agrees with the order of a key but for ties.  It ends with an item of the greatest key among the
eligible ones.  Where no two of these share a key, the order of the items does not matter.
-/

namespace BurnLens.Library

/-! ## The first of the greatest

The first item of the greatest value, with its index, and the scan that finds it: a best value that is
replaced by a greater one finds the first of the greatest, unless none is above what it starts with.
-/

section

variable {α β K : Type*} [LinearOrder K] (value : α → K)

def greatest : List α → Option (Nat × α)
  | [] => none
  | a :: items =>
    match greatest items with
    | none => some (0, a)
    | some (i, b) => if value a < value b then some (i + 1, b) else some (0, a)

def improve (best : K × Option α) (a : α) : K × Option α :=
  if best.1 < value a then (value a, some a) else best

variable {value} {items : List α} {i : Nat} {a : α}

theorem getElem?_of_greatest (found : greatest value items = some (i, a)) : items[i]? = some a := by
  induction items generalizing i with
  | nil => cases found
  | cons b items inductionHypothesis =>
    rw [greatest] at found
    split at found
    · cases found
      rfl
    · next j c later =>
      split at found
      · cases found
        exact inductionHypothesis later
      · cases found
        rfl

theorem greatest_eq_none : greatest value items = none ↔ items = [] := by
  cases items with
  | nil => simp [greatest]
  | cons b items =>
    rw [greatest]
    split
    · simp
    · split <;> simp

theorem greatest_map (f : β → α) (items : List β) : greatest value (items.map f) =
    (greatest (fun b => value (f b)) items).map fun found => (found.1, f found.2) := by
  induction items with
  | nil => rfl
  | cons b items inductionHypothesis =>
    rw [List.map_cons, greatest, greatest, inductionHypothesis]
    cases greatest (fun b => value (f b)) items with
    | none => rfl
    | some found =>
      simp only [Option.map_some]
      split <;> rfl

/-- The scan finds the first of the greatest, where it is above the start. -/
theorem foldl_improve (start : K × Option α) (items : List α) : items.foldl (improve value) start =
    (greatest value items).elim start fun found => improve value start found.2 := by
  induction items generalizing start with
  | nil => rfl
  | cons head items inductionHypothesis =>
    rw [List.foldl_cons, inductionHypothesis, greatest]
    cases greatest value items with
    | none => rfl
    | some found =>
      obtain ⟨i, a⟩ := found
      simp only [Option.elim_some, improve]
      by_cases above : start.1 < value head
      · by_cases greater : value head < value a
        · simp [above, greater, lt_trans above greater]
        · simp [above, greater]
      · by_cases greater : value head < value a
        · simp [above, greater]
        · have below : ¬ start.1 < value a := fun less => greater (lt_of_le_of_lt (not_lt.mp above) less)
          simp [above, greater, below]

end

variable {α K : Type*} [LinearOrder K]

def bestSoFar (eligible : α → Bool) (replaces : α → α → Bool) : List α → Option α → Option α
  | [], best => best
  | a :: items, best =>
    bestSoFar eligible replaces items (if eligible a && best.all (replaces a) then some a else best)

/-- An eligible item of the greatest key, or nothing where no item is eligible. -/
def IsBest (eligible : α → Bool) (key : α → K) (items : List α) : Option α → Prop
  | none => ∀ a ∈ items, eligible a = false
  | some best => best ∈ items ∧ eligible best = true ∧
      ∀ a ∈ items, eligible a = true → key a ≤ key best

/-- A rule that replaces an item by one of no smaller key, and always by one of a greater key. -/
structure Replaces (key : α → K) (replaces : α → α → Bool) : Prop where
  up : ∀ a b, replaces a b = true → key b ≤ key a
  down : ∀ a b, replaces a b = false → key a ≤ key b

theorem replaces_lt (key : α → K) : Replaces key fun a b => decide (key b < key a) where
  up _ _ greater := le_of_lt (of_decide_eq_true greater)
  down _ _ other := not_lt.mp (of_decide_eq_false other)

theorem replaces_le (key : α → K) : Replaces key fun a b => decide (key b ≤ key a) where
  up _ _ greater := of_decide_eq_true greater
  down _ _ other := le_of_lt (not_le.mp (of_decide_eq_false other))

variable {eligible : α → Bool} {key : α → K} {replaces : α → α → Bool} {items items' : List α}

theorem IsBest.step {done : List α} {best : Option α} (rule : Replaces key replaces)
    (found : IsBest eligible key done best) (a : α) :
    IsBest eligible key (done ++ [a])
      (if eligible a && best.all (replaces a) then some a else best) := by
  cases fits : eligible a with
  | false =>
    cases best with
    | none =>
      intro b member
      rw [List.mem_append, List.mem_singleton] at member
      cases member with
      | inl old => exact found b old
      | inr new => exact new ▸ fits
    | some best =>
      obtain ⟨member, its, greatest⟩ := found
      refine ⟨List.mem_append_left _ member, its, ?_⟩
      intro b member eligibleB
      rw [List.mem_append, List.mem_singleton] at member
      cases member with
      | inl old => exact greatest b old eligibleB
      | inr new => simp [new, fits] at eligibleB
  | true =>
    cases best with
    | none =>
      refine ⟨by simp, fits, ?_⟩
      intro b member eligibleB
      rw [List.mem_append, List.mem_singleton] at member
      cases member with
      | inl old => simp [found b old] at eligibleB
      | inr new => exact new ▸ le_rfl
    | some best =>
      obtain ⟨member, its, greatest⟩ := found
      cases replaced : replaces a best with
      | true =>
        simp only [Option.all_some, replaced, Bool.and_self, if_true]
        refine ⟨by simp, fits, ?_⟩
        intro b member eligibleB
        rw [List.mem_append, List.mem_singleton] at member
        cases member with
        | inl old => exact le_trans (greatest b old eligibleB) (rule.up a best replaced)
        | inr new => exact new ▸ le_rfl
      | false =>
        simp only [Option.all_some, replaced, Bool.and_false, Bool.false_eq_true, if_false]
        refine ⟨List.mem_append_left _ member, its, ?_⟩
        intro b member eligibleB
        rw [List.mem_append, List.mem_singleton] at member
        cases member with
        | inl old => exact greatest b old eligibleB
        | inr new => exact new ▸ rule.down a best replaced

theorem IsBest.run {done : List α} {best : Option α} (rule : Replaces key replaces)
    (found : IsBest eligible key done best) (items : List α) :
    IsBest eligible key (done ++ items) (bestSoFar eligible replaces items best) := by
  induction items generalizing done best with
  | nil =>
    rw [List.append_nil]
    exact found
  | cons a items inductionHypothesis =>
    have stepped := inductionHypothesis (found.step rule a)
    rw [List.append_assoc] at stepped
    exact stepped

/-- The loop finds the best. -/
theorem bestSoFar_isBest (rule : Replaces key replaces) (items : List α) :
    IsBest eligible key items (bestSoFar eligible replaces items none) := by
  have start : IsBest eligible key [] none := by simp [IsBest]
  exact start.run rule items

theorem IsBest.perm (perm : items.Perm items') {best : Option α}
    (found : IsBest eligible key items best) : IsBest eligible key items' best := by
  cases best with
  | none => exact fun a member => found a (perm.mem_iff.mpr member)
  | some best =>
    obtain ⟨member, its, greatest⟩ := found
    exact ⟨perm.mem_iff.mp member, its, fun a member => greatest a (perm.mem_iff.mpr member)⟩

theorem IsBest.unique {best other : Option α} (found : IsBest eligible key items best)
    (also : IsBest eligible key items other)
    (distinct : ∀ a ∈ items, ∀ b ∈ items, eligible a = true → eligible b = true →
      key a = key b → a = b) : best = other := by
  cases best with
  | none =>
    cases other with
    | none => rfl
    | some other =>
      obtain ⟨member, its, -⟩ := also
      cases its.symm.trans (found other member)
  | some best =>
    cases other with
    | none =>
      obtain ⟨member, its, -⟩ := found
      cases its.symm.trans (also best member)
    | some other =>
      obtain ⟨member, its, greatest⟩ := found
      obtain ⟨member', its', greatest'⟩ := also
      have same := le_antisymm (greatest' best member its) (greatest other member' its')
      rw [distinct best member other member' its its' same]

theorem bestSoFar_perm (rule : Replaces key replaces) (perm : items.Perm items')
    (distinct : ∀ a ∈ items, ∀ b ∈ items, eligible a = true → eligible b = true →
      key a = key b → a = b) :
    bestSoFar eligible replaces items none = bestSoFar eligible replaces items' none :=
  (bestSoFar_isBest rule items).unique ((bestSoFar_isBest rule items').perm perm.symm) distinct

end BurnLens.Library
