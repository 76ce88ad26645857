import BurnLens.Library.Json
import Mathlib.Data.List.Basic
import Mathlib.Data.List.Induction

/-! # Tables

Rows under uniqueness constraints: an insert that replaces the rows it clashes with, and a
lookup that finds at most one.
-/

namespace BurnLens.Library

def storable (n : Int) : Bool := -2 ^ 63 ≤ n ∧ n < 2 ^ 63

def integerOverflow : Raised :=
  ⟨"OverflowError", "Python int too large to convert to SQLite INTEGER"⟩

section

variable {α : Type} (clash : α → α → Bool)

/-- `INSERT OR REPLACE`. -/
def insertOrReplace (rows : List α) (row : α) : List α :=
  (rows.filter fun other => !clash other row) ++ [row]

/-- `INSERT ... ON CONFLICT DO UPDATE`. -/
def upsert (same : α → Bool) (update : α → α) (row : α) (rows : List α) : List α :=
  if rows.any same then rows.map fun other => if same other then update other else other
  else rows ++ [row]

variable {clash} {rows : List α} {row other : α} {p : α → Bool}

theorem mem_insertOrReplace :
    other ∈ insertOrReplace clash rows row ↔
      (other ∈ rows ∧ clash other row = false) ∨ other = row := by
  simp [insertOrReplace]

theorem find?_insertOrReplace_self (found : p row = true)
    (keyed : ∀ other ∈ rows, p other = true → clash other row = true) :
    (insertOrReplace clash rows row).find? p = some row := by
  have none : (rows.filter fun other => !clash other row).find? p = none := by
    rw [List.find?_eq_none]
    intro other member
    obtain ⟨stored, apart⟩ := List.mem_filter.mp member
    intro its
    simp [keyed other stored its] at apart
  rw [insertOrReplace, List.find?_append, none, Option.none_or, List.find?_singleton, if_pos found]

/-- A lookup of what clashes with nothing new finds what it found before. -/
theorem find?_insertOrReplace_of_ne (missed : p row = false)
    (apart : ∀ other ∈ rows, p other = true → clash other row = false) :
    (insertOrReplace clash rows row).find? p = rows.find? p := by
  have kept : (rows.filter fun other => !clash other row).find? p = rows.find? p := by
    induction rows with
    | nil => rfl
    | cons head rows inductionHypothesis =>
      have rest := inductionHypothesis fun other stored =>
        apart other (List.mem_cons_of_mem _ stored)
      cases its : p head with
      | true => simp [apart head (List.mem_cons_self ..) its, its]
      | false =>
        rw [List.find?_cons_of_neg (by simp [its]), ← rest]
        cases clash head row <;> simp [its]
  rw [insertOrReplace, List.find?_append, kept, List.find?_singleton, missed]
  simp

/-- An insert that replaces nothing of a selection leaves the selection. -/
theorem filter_insertOrReplace (kept : ∀ other ∈ rows, clash other row = true → p other = false)
    (new : p row = false) : (insertOrReplace clash rows row).filter p = rows.filter p := by
  have same : (rows.filter fun other => !clash other row).filter p = rows.filter p := by
    rw [List.filter_filter]
    apply List.filter_congr
    intro other stored
    cases clashes : clash other row with
    | true => simp [kept other stored clashes]
    | false => simp
  rw [insertOrReplace, List.filter_append, same, List.filter_singleton, new]
  simp

section Replaced

variable {κ : Type} [DecidableEq κ] (key : α → κ)

/-- A table with a primary key that is written by replacements only. -/
def replaced (items : List α) : List α :=
  items.foldl (insertOrReplace fun old new => key old = key new) []

theorem replaced_append (items : List α) (item : α) : replaced key (items ++ [item]) =
    insertOrReplace (fun old new => key old = key new) (replaced key items) item := by
  rw [replaced, List.foldl_append]
  rfl

theorem filter_replaced (items : List α) (k : κ) : (replaced key items).filter (fun row => key row = k) =
    (items.reverse.find? fun item => key item = k).toList := by
  induction items using List.reverseRecOn with
  | nil => rfl
  | append_singleton items item inductionHypothesis =>
    rw [replaced_append, List.reverse_append, List.reverse_singleton, List.singleton_append]
    by_cases its : key item = k
    · have gone : ((replaced key items).filter fun other => !decide (key other = key item)).filter
          (fun row => key row = k) = [] := by
        rw [List.filter_eq_nil_iff]
        intro other kept same
        have apart := (List.mem_filter.mp kept).2
        rw [decide_eq_true_eq] at same
        simp [same, its] at apart
      rw [insertOrReplace, List.filter_append, gone, List.find?_cons_of_pos (by simpa using its)]
      simp [its]
    · have kept : (insertOrReplace (fun old new => key old = key new) (replaced key items) item).filter
          (fun row => key row = k) = (replaced key items).filter fun row => key row = k := by
        refine filter_insertOrReplace (fun other _ clashes => ?_) (decide_eq_false its)
        rw [of_decide_eq_true clashes]
        exact decide_eq_false its
      rw [kept, inductionHypothesis, List.find?_cons_of_neg (by simpa using its)]

end Replaced

variable {same : α → Bool} {update : α → α}

theorem filter_upsert
    (kept : ∀ other ∈ rows, same other = true →
      update other = other ∨ p other = false ∧ p (update other) = false)
    (new : p row = false) : (upsert same update row rows).filter p = rows.filter p := by
  rw [upsert]
  split
  · next found =>
    clear found new
    induction rows with
    | nil => rfl
    | cons head rows inductionHypothesis =>
      have rest := inductionHypothesis fun other stored => kept other (List.mem_cons_of_mem _ stored)
      rw [List.map_cons, List.filter_cons, List.filter_cons, rest]
      cases its : same head with
      | false => rfl
      | true =>
        obtain unchanged | ⟨before, after⟩ := kept head (List.mem_cons_self ..) its
        · rw [if_pos rfl, unchanged]
        · rw [if_pos rfl, before, after]
          rfl
  · rw [List.filter_append, List.filter_singleton, new]
    simp

/-- Where the rows that an upsert changes all become `value`, it stores `value` and keeps the rest. -/
theorem mem_map_upsert {β : Type} {f : α → β} {value : β} (new : f row = value)
    (updated : ∀ other ∈ rows, same other = true → f (update other) = value) {b : β} :
    b ∈ (upsert same update row rows).map f ↔
      b = value ∨ ∃ other ∈ rows, same other = false ∧ f other = b := by
  rw [upsert]
  split
  · next found =>
    obtain ⟨there, stored, its⟩ := List.any_eq_true.mp found
    simp only [List.mem_map, exists_exists_and_eq_and]
    constructor
    · rintro ⟨other, member, rfl⟩
      cases same' : same other with
      | true => exact Or.inl (updated other member same')
      | false => exact Or.inr ⟨other, member, same', rfl⟩
    · rintro (rfl | ⟨other, member, apart, rfl⟩)
      · exact ⟨there, stored, by rw [if_pos its]; exact updated there stored its⟩
      · exact ⟨other, member, by rw [if_neg (by simp [apart])]⟩
  · next missing =>
    have apart : ∀ other ∈ rows, same other = false := by simpa using missing
    simp only [List.map_append, List.mem_append, List.mem_map, List.map_cons, List.map_nil,
      List.mem_singleton, new]
    constructor
    · rintro (⟨other, member, rfl⟩ | rfl)
      · exact Or.inr ⟨other, member, apart other member, rfl⟩
      · exact Or.inl rfl
    · rintro (rfl | ⟨other, member, _, rfl⟩)
      · exact Or.inr rfl
      · exact Or.inl ⟨other, member, rfl⟩

end

/-! ## Column affinity

What a column of an embedded database stores of a bound value: the declared type of the column
converts the value where that loses nothing, and is no constraint otherwise.
-/

section

/-- The integer that a float is, strictly between the bounds of 64 bits. -/
def Flt.whole : Flt → Option Int
  | .fin x => if x.den = 1 ∧ -2 ^ 63 < x.num ∧ x.num < 2 ^ 63 then some x.num else none
  | _ => none

/-- Numbers as texts, and back; a numeric literal has a digit. -/
structure NumberText where
  numeric : Str → Option Number
  text : Number → Str
  digits : numeric [] = none

def NumberText.unread (text : Number → Str) : NumberText where
  numeric _ := none
  text
  digits := rfl

namespace Number

def packed : Number → Json
  | int n => if storable n then .int n else .float (.fin n)
  | float x =>
    match x.whole with
    | some n => .int n
    | none => .float x

def widened : Number → Json
  | int n => .float (.fin n)
  | float x => .float x

def isWhole : Number → Bool
  | int n => storable n
  | float x => x.whole.isSome

end Number

namespace NumberText

variable (texts : NumberText)

def integerAffinity : Json → Json
  | .bool b => .int b.toInt
  | .float x => (Number.float x).packed
  | .str s =>
    match texts.numeric s with
    | some a => a.packed
    | none => .str s
  | value => value

def realAffinity : Json → Json
  | .bool b => .float (.fin b.toInt)
  | .int n => .float (.fin n)
  | .str s =>
    match texts.numeric s with
    | some a => a.widened
    | none => .str s
  | value => value

def textAffinity : Json → Json
  | .bool b => .str (texts.text (.int b.toInt))
  | .int n => .str (texts.text (.int n))
  | .float .nan => .null
  | .float x => .str (texts.text (.float x))
  | value => value

end NumberText

end

end BurnLens.Library
