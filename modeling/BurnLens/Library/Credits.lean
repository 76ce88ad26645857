import BurnLens.Library.FirstWins
import Mathlib.Algebra.BigOperators.Group.Finset.Basic
import Mathlib.Data.List.Sort

/-! # One credit a key

Of the entries of a key, the one that is ranked first is credited; among equals, the one that came
first.  What the credited entries sum up to is the same for every order of the entries if and only if
the leading entries of a key count the same.
-/

namespace BurnLens.Library

variable {Entry Key Rank Amount : Type*} [DecidableEq Key] [LinearOrder Rank] (key : Entry → Key)
  (rank : Entry → Rank)

/-- The greatest first; equals stay in their order. -/
def ranked (entries : List Entry) : List Entry :=
  entries.insertionSort fun a b => rank b ≤ rank a

def credited (entries : List Entry) : List Entry := importAll key [] (ranked rank entries)

/-- Of the entries of its key, none is ranked higher. -/
def IsLeader (entries : List Entry) (a : Entry) : Prop :=
  ∀ b ∈ entries, key b = key a → rank b ≤ rank a

/-- The leading entries of a key count the same. -/
def LeadersAgree (count : Entry → Amount) (entries : List Entry) : Prop :=
  ∀ a ∈ entries, ∀ b ∈ entries, key a = key b → IsLeader key rank entries a →
    IsLeader key rank entries b → count a = count b

variable {key rank} {entries other rest : List Entry} {a b x : Entry}

/-! ## The first of each key -/

theorem mem_importAll_iff {rows : List Entry} : x ∈ importAll key rows entries ↔ x ∈ rows ∨
    (∀ row ∈ rows, key row ≠ key x) ∧ entries.find? (fun y => key y = key x) = some x := by
  induction entries generalizing rows with
  | nil => exact ⟨.inl, fun either => either.elim id fun never => by cases never.2⟩
  | cons entry entries inductionHypothesis =>
    refine (@inductionHypothesis (insertNew key rows entry)).trans ?_
    rw [List.find?_cons]
    by_cases known : ∃ row ∈ rows, key row = key entry
    · rw [insertNew_of_known known]
      obtain ⟨row, stored, same⟩ := known
      refine or_congr_right (and_congr_right fun apart => ?_)
      rw [decide_eq_false (same ▸ apart row stored)]
    · have new : ∀ row ∈ rows, key row ≠ key entry := fun row stored same => known ⟨row, stored, same⟩
      rw [insertNew_of_new new, List.mem_append, List.mem_singleton, or_assoc]
      refine or_congr_right ?_
      by_cases same : key entry = key x
      · rw [decide_eq_true same]
        constructor
        · rintro (rfl | ⟨apart, -⟩)
          · exact ⟨new, rfl⟩
          · exact absurd same (apart entry (List.mem_append_right _ (.head _)))
        · rintro ⟨-, found⟩
          exact .inl (Option.some.inj found).symm
      · rw [decide_eq_false same]
        constructor
        · rintro (rfl | ⟨apart, found⟩)
          · exact absurd rfl same
          · exact ⟨fun row stored => apart row (List.mem_append_left _ stored), found⟩
        · rintro ⟨apart, found⟩
          refine .inr ⟨fun row stored => ?_, found⟩
          obtain old | new := List.mem_append.mp stored
          · exact apart row old
          · rw [List.mem_singleton.mp new]
            exact same

def firstCount [Zero Amount] (key : Entry → Key) (count : Entry → Amount) (entries : List Entry)
    (k : Key) : Amount :=
  ((entries.find? fun entry => key entry = k).map count).getD 0

theorem sum_importAll [AddCommMonoid Amount] (count : Entry → Amount) (entries : List Entry) :
    ((importAll key [] entries).map count).sum =
      ∑ k ∈ (entries.map key).toFinset, firstCount key count entries k := by
  have distinct : ((importAll key [] entries).map key).Nodup := nodup_importAll List.nodup_nil
  have keys : (entries.map key).toFinset = ((importAll key [] entries).map key).toFinset := by
    ext k
    simp only [List.mem_toFinset, List.mem_map]
    constructor
    · rintro ⟨entry, member, rfl⟩
      exact key_mem_importAll member
    · rintro ⟨entry, stored, same⟩
      obtain ⟨⟨⟩⟩ | member := mem_of_mem_importAll stored
      exact ⟨entry, member, same⟩
  rw [keys, List.sum_toFinset _ distinct, List.map_map]
  refine congrArg List.sum (List.map_congr_left fun entry stored => ?_)
  obtain ⟨⟨⟩⟩ | ⟨-, found⟩ := mem_importAll_iff.mp stored
  rw [Function.comp_apply, firstCount, found]
  rfl

/-! ## The ranking -/

theorem ranked_perm (rank : Entry → Rank) (entries : List Entry) :
    (ranked rank entries).Perm entries := List.perm_insertionSort _ _

theorem leads_of_find {k : Key}
    (found : (ranked rank entries).find? (fun entry => key entry = k) = some x) :
    x ∈ entries ∧ key x = k ∧ IsLeader key rank entries x := by
  obtain ⟨its, front, back, split, apart⟩ := List.find?_eq_some_iff_append.mp found
  have its := of_decide_eq_true its
  have among : ∀ {y}, y ∈ entries ↔ y ∈ front ++ x :: back := by
    intro y
    rw [← split]
    exact (ranked_perm rank entries).mem_iff.symm
  have sorted : (ranked rank entries).Pairwise fun a b => rank b ≤ rank a :=
    List.pairwise_insertionSort _ _
  rw [split, List.pairwise_append, List.pairwise_cons] at sorted
  refine ⟨among.mpr (List.mem_append_right _ (.head _)), its, fun y member same => ?_⟩
  obtain before | here | after : y ∈ front ∨ y = x ∨ y ∈ back := by
    simpa using among.mp member
  · have other := apart y before
    rw [same, its, decide_eq_true rfl] at other
    cases other
  · rw [here]
  · exact sorted.2.1.1 y after

theorem find_orderedInsert_of_ne {p : Entry → Bool} (other : p a = false) (entries : List Entry) :
    (entries.orderedInsert (fun a b => rank b ≤ rank a) a).find? p = entries.find? p := by
  induction entries with
  | nil => simp [other]
  | cons b entries inductionHypothesis =>
    rw [List.orderedInsert_cons]
    split
    · rw [List.find?_cons, other]
    · rw [List.find?_cons, List.find?_cons, inductionHypothesis]

theorem find_orderedInsert_self (leads : ∀ b ∈ entries, key b = key a → rank b ≤ rank a) :
    (entries.orderedInsert (fun a b => rank b ≤ rank a) a).find? (fun entry => key entry = key a) =
      some a := by
  induction entries with
  | nil => simp
  | cons b entries inductionHypothesis =>
    rw [List.orderedInsert_cons]
    split
    · simp
    · next higher =>
      have apart : key b ≠ key a := fun same => higher (leads b (.head _) same)
      rw [List.find?_cons, decide_eq_false apart]
      exact inductionHypothesis fun b member => leads b (.tail _ member)

/-! ## The order of the entries -/

omit [DecidableEq Key] in
theorem IsLeader.perm (perm : other.Perm entries) (leads : IsLeader key rank other a) :
    IsLeader key rank entries a :=
  fun b member => leads b (perm.mem_iff.mpr member)

/-- Where the leaders agree, the credited entries sum up to the same. -/
theorem LeadersAgree.sum_credited [AddCommMonoid Amount] {count : Entry → Amount}
    (agree : LeadersAgree key rank count entries) (perm : other.Perm entries) :
    ((credited key rank other).map count).sum = ((credited key rank entries).map count).sum := by
  have keys : ((ranked rank other).map key).toFinset = ((ranked rank entries).map key).toFinset :=
    List.toFinset_eq_of_perm _ _ (((ranked_perm rank other).trans
      (perm.trans (ranked_perm rank entries).symm)).map key)
  rw [credited, credited, sum_importAll, sum_importAll, keys]
  refine Finset.sum_congr rfl fun k _ => ?_
  rw [firstCount, firstCount]
  cases found : (ranked rank entries).find? fun entry => key entry = k with
  | none =>
    have absent := List.find?_eq_none.mp found
    rw [List.find?_eq_none.mpr]
    intro entry member
    exact absent entry ((ranked_perm rank entries).mem_iff.mpr
      (perm.mem_iff.mp ((ranked_perm rank other).mem_iff.mp member)))
  | some x =>
    obtain ⟨member, its, leads⟩ := leads_of_find found
    cases found' : (ranked rank other).find? fun entry => key entry = k with
    | none =>
      have absent := List.find?_eq_none.mp found' x
        ((ranked_perm rank other).mem_iff.mpr (perm.mem_iff.mpr member))
      exact absurd (decide_eq_true its) absent
    | some y =>
      obtain ⟨member', its', leads'⟩ := leads_of_find found'
      exact agree y (perm.mem_iff.mp member') x member (its'.trans its.symm) (leads'.perm perm) leads

/-- Two leaders of a key that may come in either order count the same. -/
theorem count_eq_of_sum_credited [AddCancelCommMonoid Amount] {count : Entry → Amount}
    (same : key a = key b) (leads : IsLeader key rank (a :: b :: rest) a)
    (leads' : IsLeader key rank (a :: b :: rest) b)
    (sums : ((credited key rank (a :: b :: rest)).map count).sum =
      ((credited key rank (b :: a :: rest)).map count).sum) : count a = count b := by
  have swapped : (a :: b :: rest).Perm (b :: a :: rest) := .swap b a rest
  have keys : ((ranked rank (a :: b :: rest)).map key).toFinset =
      ((ranked rank (b :: a :: rest)).map key).toFinset :=
    List.toFinset_eq_of_perm _ _ (((ranked_perm rank _).trans
      (swapped.trans (ranked_perm rank _).symm)).map key)
  have here : key a ∈ ((ranked rank (b :: a :: rest)).map key).toFinset := by
    rw [List.mem_toFinset]
    exact List.mem_map_of_mem ((ranked_perm rank _).mem_iff.mpr (.tail _ (.head _)))
  have first : firstCount key count (ranked rank (a :: b :: rest)) (key a) = count a := by
    have found : (ranked rank (a :: b :: rest)).find? (fun entry => key entry = key a) = some a :=
      find_orderedInsert_self fun c member =>
        leads c (.tail _ ((ranked_perm rank (b :: rest)).mem_iff.mp member))
    rw [firstCount, found]
    rfl
  have first' : firstCount key count (ranked rank (b :: a :: rest)) (key a) = count b := by
    have found : (ranked rank (b :: a :: rest)).find? (fun entry => key entry = key b) = some b :=
      find_orderedInsert_self fun c member => leads' c (swapped.mem_iff.mpr
        (.tail _ ((ranked_perm rank (a :: rest)).mem_iff.mp member)))
    rw [firstCount, same, found]
    rfl
  have others : ∀ k ≠ key a, firstCount key count (ranked rank (a :: b :: rest)) k =
      firstCount key count (ranked rank (b :: a :: rest)) k := by
    intro k apart
    have notA : decide (key a = k) = false := decide_eq_false fun its => apart its.symm
    have notB : decide (key b = k) = false := decide_eq_false fun its => apart (same.trans its).symm
    have skip : ∀ c d : Entry, decide (key c = k) = false → decide (key d = k) = false →
        (ranked rank (c :: d :: rest)).find? (fun entry => key entry = k) =
          (ranked rank rest).find? fun entry => key entry = k := by
      intro c d notC notD
      exact (find_orderedInsert_of_ne (p := fun entry => decide (key entry = k)) notC _).trans
        (find_orderedInsert_of_ne (p := fun entry => decide (key entry = k)) notD _)
    rw [firstCount, firstCount, skip a b notA notB, skip b a notB notA]
  rw [credited, credited, sum_importAll, sum_importAll, keys, ← Finset.add_sum_erase _ _ here,
    ← Finset.add_sum_erase _ _ here, first, first', Finset.sum_congr rfl fun k member =>
      others k (Finset.ne_of_mem_erase member)] at sums
  exact add_right_cancel sums

end BurnLens.Library
