import Mathlib.Algebra.BigOperators.Group.List.Basic
import Mathlib.Data.List.Nodup

/-! # Sums by group

`SELECT key, SUM(amount) ... GROUP BY key` over the rows whose key is not null, as a dictionary
from keys to sums, and what a lookup in it and the sum of its values are.
-/

namespace BurnLens.Library

/-! ## Left joins

`LEFT JOIN others ON on`, for one row at a time.  Where a key tells the others apart and a row is
joined on it, the row has one partner or null.
-/

section

variable {Row Other Key : Type*}

def leftJoin (on : Row → Other → Bool) (others : List Other) (row : Row) : List (Option Other) :=
  if (others.filter (on row)).isEmpty then [none] else (others.filter (on row)).map some

theorem leftJoin_eq_find? {on : Row → Other → Bool} {others : List Other} {row : Row}
    {key : Other → Key} (distinct : (others.map key).Nodup) (k : Key)
    (keyed : ∀ other, on row other = true → key other = k) :
    leftJoin on others row = [others.find? (on row)] := by
  rw [leftJoin, ← List.head?_filter]
  cases matched : others.filter (on row) with
  | nil => rfl
  | cons partner rest =>
    have alone : rest = [] := by
      have apart : ((partner :: rest).map key).Nodup := by
        rw [← matched]
        exact List.Nodup.sublist ((List.filter_sublist).map key) distinct
      have its : ∀ other ∈ partner :: rest, key other = k := by
        intro other member
        rw [← matched] at member
        exact keyed other (List.mem_filter.mp member).2
      rw [List.eq_nil_iff_forall_not_mem]
      intro other later
      rw [List.map_cons, List.nodup_cons] at apart
      apply apart.1
      rw [its partner List.mem_cons_self, ← its other (List.mem_cons_of_mem partner later)]
      exact List.mem_map_of_mem later
    rw [alone]
    rfl

end

variable {Row Key Amount : Type*} [DecidableEq Key] [AddCommMonoid Amount]

def addTo (key : Key) (amount : Amount) : List (Key × Amount) → List (Key × Amount)
  | [] => [(key, amount)]
  | (other, sum) :: groups =>
    if other = key then (other, amount + sum) :: groups else (other, sum) :: addTo key amount groups

def groupSum (key : Row → Option Key) (amount : Row → Amount) : List Row → List (Key × Amount)
  | [] => []
  | row :: rows =>
    match key row with
    | some k => addTo k (amount row) (groupSum key amount rows)
    | none => groupSum key amount rows

def sumWhere (condition : Row → Bool) (amount : Row → Amount) (rows : List Row) : Amount :=
  ((rows.filter condition).map amount).sum

@[simp] theorem sumWhere_nil (condition : Row → Bool) (amount : Row → Amount) :
    sumWhere condition amount [] = 0 := rfl

theorem sumWhere_cons (condition : Row → Bool) (amount : Row → Amount) (row : Row) (rows : List Row) :
    sumWhere condition amount (row :: rows) =
      (if condition row then amount row else 0) + sumWhere condition amount rows := by
  cases holds : condition row <;> simp [sumWhere, holds]

theorem sumWhere_map {Source : Type*} (f : Source → Row) (condition : Row → Bool) (amount : Row → Amount)
    (rows : List Source) : sumWhere condition amount (rows.map f) =
      sumWhere (fun row => condition (f row)) (fun row => amount (f row)) rows := by
  simp [sumWhere, List.filter_map, Function.comp_def]

theorem sumWhere_perm {rows other : List Row} (perm : rows.Perm other) (condition : Row → Bool)
    (amount : Row → Amount) : sumWhere condition amount rows = sumWhere condition amount other :=
  ((perm.filter condition).map amount).sum_eq

theorem map_sumWhere {Sum : Type*} [AddCommMonoid Sum] (f : Amount →+ Sum) (condition : Row → Bool)
    (amount : Row → Amount) (rows : List Row) :
    f (sumWhere condition amount rows) = sumWhere condition (fun row => f (amount row)) rows := by
  rw [sumWhere, map_list_sum, List.map_map]
  rfl

theorem sumWhere_one (condition : Row → Bool) (rows : List Row) :
    sumWhere condition (fun _ => 1) rows = (rows.filter condition).length := by
  simp [sumWhere]

theorem sumWhere_split {whole first second : Row → Bool}
    (union : ∀ row, whole row = (first row || second row))
    (disjoint : ∀ row, (first row && second row) = false) (amount : Row → Amount) (rows : List Row) :
    sumWhere whole amount rows = sumWhere first amount rows + sumWhere second amount rows := by
  induction rows with
  | nil => simp
  | cons row rows inductionHypothesis =>
    have apart := disjoint row
    rw [sumWhere_cons, sumWhere_cons, sumWhere_cons, inductionHypothesis, union]
    cases here : first row
    · cases second row
      · simp
      · simp only [Bool.or_true, if_true, Bool.false_eq_true, if_false, zero_add]
        exact add_left_comm ..
    · rw [here, Bool.true_and] at apart
      simp [apart, add_assoc]

theorem sumWhere_true (amount : Row → Amount) (rows : List Row) :
    sumWhere (fun _ => true) amount rows = (rows.map amount).sum := by
  simp [sumWhere]

theorem sumWhere_congr {condition other : Row → Bool} {rows : List Row}
    (same : ∀ row ∈ rows, condition row = other row) (amount : Row → Amount) :
    sumWhere condition amount rows = sumWhere other amount rows := by
  rw [sumWhere, sumWhere, List.filter_congr same]

/-- The sums of the groups with distinct keys are the sum of their rows. -/
theorem sum_map_sumWhere {key : Row → Key} {keys : List Key} (distinct : keys.Nodup)
    (amount : Row → Amount) (rows : List Row) :
    (keys.map fun k => sumWhere (fun row => decide (key row = k)) amount rows).sum =
      sumWhere (fun row => decide (key row ∈ keys)) amount rows := by
  induction keys with
  | nil =>
    induction rows with
    | nil => rfl
    | cons row rows inductionHypothesis => simpa [sumWhere_cons] using inductionHypothesis
  | cons k keys inductionHypothesis =>
    obtain ⟨apart, distinct⟩ := List.nodup_cons.mp distinct
    rw [List.map_cons, List.sum_cons, inductionHypothesis distinct]
    apply (sumWhere_split _ _ amount rows).symm
    · intro row
      simp
    · intro row
      rw [Bool.and_eq_false_imp]
      intro same
      rw [of_decide_eq_true same]
      exact decide_eq_false apart

theorem sum_map_sumWhere_of_mem {key : Row → Key} {keys : List Key} (distinct : keys.Nodup)
    {rows : List Row} (all : ∀ row ∈ rows, key row ∈ keys) (amount : Row → Amount) :
    (keys.map fun k => sumWhere (fun row => decide (key row = k)) amount rows).sum =
      (rows.map amount).sum := by
  rw [sum_map_sumWhere distinct, sumWhere, List.filter_eq_self.mpr]
  intro row member
  exact decide_eq_true (all row member)

omit [DecidableEq Key] in
/-- Where no row is under two of the keys, the sums of the keys count each row once. -/
theorem sum_map_sumWhere_of_apart {under : Row → Key → Bool} {keys : List Key} (distinct : keys.Nodup)
    {rows : List Row}
    (apart : ∀ row ∈ rows, ∀ k ∈ keys, ∀ l ∈ keys, under row k = true → under row l = true → k = l)
    (amount : Row → Amount) :
    (keys.map fun k => sumWhere (fun row => under row k) amount rows).sum =
      sumWhere (fun row => keys.any (under row)) amount rows := by
  induction keys with
  | nil =>
    induction rows with
    | nil => rfl
    | cons row rows inductionHypothesis =>
      rw [sumWhere_cons, ← inductionHypothesis fun row _ k member => absurd member List.not_mem_nil]
      exact (zero_add _).symm
  | cons k keys inductionHypothesis =>
    obtain ⟨fresh, distinct⟩ := List.nodup_cons.mp distinct
    rw [List.map_cons, List.sum_cons, inductionHypothesis distinct fun row member a there b here =>
      apart row member a (List.mem_cons_of_mem _ there) b (List.mem_cons_of_mem _ here)]
    have others : ∀ row ∈ rows, keys.any (under row) = (!under row k && keys.any (under row)) := by
      intro row member
      cases its : under row k with
      | false => rfl
      | true =>
        rw [Bool.not_true, Bool.false_and, List.any_eq_false]
        intro l there also
        have same := apart row member k List.mem_cons_self l (List.mem_cons_of_mem _ there) its also
        exact fresh (same ▸ there)
    rw [sumWhere_congr others]
    refine (sumWhere_split ?_ ?_ amount rows).symm
    · intro row
      rw [List.any_cons]
      cases under row k <;> simp
    · intro row
      cases under row k <;> simp

theorem update_add (sums : Key → Amount) (k other : Key) (a : Amount) :
    Function.update sums k (sums k + a) other = sums other + if k = other then a else 0 := by
  by_cases same : k = other
  · subst same
    simp
  · simp [Function.update_of_ne (Ne.symm same), same]

variable (key : Row → Option Key) (amount : Row → Amount)

theorem sum_addTo (k : Key) (a : Amount) (groups : List (Key × Amount)) :
    ((addTo k a groups).map Prod.snd).sum = a + (groups.map Prod.snd).sum := by
  induction groups with
  | nil => rfl
  | cons group groups inductionHypothesis =>
    simp only [addTo]
    split
    · simp [add_assoc]
    · simp only [List.map_cons, List.sum_cons, inductionHypothesis]
      exact add_left_comm ..

theorem sum_groupSum (rows : List Row) :
    ((groupSum key amount rows).map Prod.snd).sum = sumWhere (fun row => (key row).isSome) amount rows := by
  induction rows with
  | nil => rfl
  | cons row rows inductionHypothesis =>
    simp only [groupSum, sumWhere_cons]
    cases keyed : key row with
    | none => simpa using inductionHypothesis
    | some k => simp [sum_addTo, inductionHypothesis]

theorem sumWhere_addTo (counts : Key → Bool) (k : Key) (a : Amount) (groups : List (Key × Amount)) :
    sumWhere (fun group => counts group.1) Prod.snd (addTo k a groups) =
      (if counts k then a else 0) + sumWhere (fun group => counts group.1) Prod.snd groups := by
  induction groups with
  | nil => simp [addTo, sumWhere_cons]
  | cons group groups inductionHypothesis =>
    obtain ⟨other, sum⟩ := group
    simp only [addTo]
    split
    · next same =>
      subst same
      simp only [sumWhere_cons]
      split <;> simp [add_assoc]
    · simp only [sumWhere_cons, inductionHypothesis]
      exact add_left_comm ..

theorem sumWhere_groupSum (counts : Key → Bool) (rows : List Row) :
    sumWhere (fun group => counts group.1) Prod.snd (groupSum key amount rows) =
      sumWhere (fun row => (key row).any counts) amount rows := by
  induction rows with
  | nil => rfl
  | cons row rows inductionHypothesis =>
    simp only [groupSum, sumWhere_cons]
    cases keyed : key row with
    | none => simpa using inductionHypothesis
    | some k => simp [sumWhere_addTo, inductionHypothesis]

theorem keys_addTo (k : Key) (a : Amount) (groups : List (Key × Amount)) :
    (addTo k a groups).map Prod.fst =
      if k ∈ groups.map Prod.fst then groups.map Prod.fst else groups.map Prod.fst ++ [k] := by
  induction groups with
  | nil => rfl
  | cons group groups inductionHypothesis =>
    simp only [addTo]
    by_cases same : group.1 = k
    · simp [same]
    · by_cases later : k ∈ groups.map Prod.fst
      · simp only [if_neg same, List.map_cons, inductionHypothesis, if_pos later,
          if_pos (List.mem_cons_of_mem _ later)]
      · have absent : k ∉ group.1 :: groups.map Prod.fst := by
          simp only [List.mem_cons, not_or]
          exact ⟨Ne.symm same, later⟩
        simp only [if_neg same, List.map_cons, inductionHypothesis, if_neg later, if_neg absent,
          List.cons_append]

theorem mem_keys_addTo {k other : Key} {a : Amount} {groups : List (Key × Amount)} :
    k ∈ (addTo other a groups).map Prod.fst ↔ k = other ∨ k ∈ groups.map Prod.fst := by
  rw [keys_addTo]
  split
  · next present =>
    constructor
    · exact Or.inr
    · rintro (rfl | member)
      · exact present
      · exact member
  · rw [List.mem_append, List.mem_singleton, or_comm]

theorem mem_keys_groupSum {k : Key} {rows : List Row} :
    k ∈ (groupSum key amount rows).map Prod.fst ↔ ∃ row ∈ rows, key row = some k := by
  induction rows with
  | nil => simp [groupSum]
  | cons row rows inductionHypothesis =>
    simp only [groupSum]
    cases keyed : key row with
    | none => simp [keyed, inductionHypothesis]
    | some other => simp [mem_keys_addTo, inductionHypothesis, keyed, eq_comm]

theorem nodup_groupSum (rows : List Row) : ((groupSum key amount rows).map Prod.fst).Nodup := by
  induction rows with
  | nil => exact List.nodup_nil
  | cons row rows inductionHypothesis =>
    simp only [groupSum]
    split
    · next k _ =>
      rw [keys_addTo]
      split
      · exact inductionHypothesis
      · next absent =>
        exact inductionHypothesis.append (List.nodup_singleton k) (by simpa using absent)
    · exact inductionHypothesis

omit [AddCommMonoid Amount] in
theorem lookup_cons_ite [BEq Key] [LawfulBEq Key] (k name : Key) (value : Amount)
    (entries : List (Key × Amount)) :
    ((name, value) :: entries).lookup k = if k = name then some value else entries.lookup k := by
  rw [List.lookup_cons]
  by_cases same : k = name
  · simp [same]
  · simp [same, beq_eq_false_iff_ne.mpr same]

omit [AddCommMonoid Amount] in
theorem lookup_map_key [BEq Key] [LawfulBEq Key] (keys : List Key) (value : Key → Amount) (k : Key) :
    (keys.map fun key => (key, value key)).lookup k = if k ∈ keys then some (value k) else none := by
  induction keys with
  | nil => rfl
  | cons key keys inductionHypothesis =>
    rw [List.map_cons, lookup_cons_ite, inductionHypothesis]
    by_cases same : k = key <;> simp [same]

omit [AddCommMonoid Amount] in
theorem mem_iff_lookup [BEq Key] [LawfulBEq Key] {entries : List (Key × Amount)} (distinct : (entries.map Prod.fst).Nodup)
    {k : Key} {a : Amount} : (k, a) ∈ entries ↔ entries.lookup k = some a := by
  induction entries with
  | nil => simp
  | cons entry entries inductionHypothesis =>
    obtain ⟨name, value⟩ := entry
    rw [List.map_cons, List.nodup_cons] at distinct
    rw [List.mem_cons, inductionHypothesis distinct.2, lookup_cons_ite]
    by_cases same : k = name
    · subst same
      have absent : entries.lookup k = none := by
        rw [List.lookup_eq_none_iff]
        intro entry member
        simpa using fun equal : k = entry.1 =>
          distinct.1 (List.mem_map.mpr ⟨entry, member, equal.symm⟩)
      simp [absent, eq_comm]
    · simp [same]

end BurnLens.Library
