import BurnLens.Library.Json
import BurnLens.Library.JsonText

/-! # JSON values as text

`json.dumps` of any value: what it writes is printable ASCII, and so on one line.
-/

namespace BurnLens.Library

section Dumps

variable (floatText : Flt → Str)

mutual

/-- `json.dumps`; `floatText` is `repr` of a float. -/
def dumps : Json → Str
  | .null => "null"
  | .bool true => "true"
  | .bool false => "false"
  | .int n => n.repr
  | .float x => floatText x
  | .str s => dumpsString s
  | .arr items => '[' :: (dumpsItems items ++ [']'])
  | .obj fields => '{' :: (dumpsFields fields ++ ['}'])

def dumpsItems : List Json → Str
  | [] => []
  | item :: items => dumps item ++ dumpsOtherItems items

def dumpsOtherItems : List Json → Str
  | [] => []
  | item :: items => ',' :: ' ' :: (dumps item ++ dumpsOtherItems items)

def dumpsFields : List (Str × Json) → Str
  | [] => []
  | (key, value) :: fields => dumpsString key ++ ':' :: ' ' :: (dumps value ++ dumpsOtherFields fields)

def dumpsOtherFields : List (Str × Json) → Str
  | [] => []
  | (key, value) :: fields =>
    ',' :: ' ' :: (dumpsString key ++ ':' :: ' ' :: (dumps value ++ dumpsOtherFields fields))

end

end Dumps

example : dumps (fun _ => []) (.obj [("a", .arr [.int (-3), .null]), ("b", .str "é\"")]) =
    "\x7b\"a\": [-3, null], \"b\": \"\\u00e9\\\"\"\x7d".toList := by decide +kernel

/-! ## Printable ASCII -/

def Printable (s : Str) : Prop := ∀ c ∈ s, 32 ≤ c.toNat ∧ c.toNat ≤ 126

theorem printable_append {s t : Str} : Printable (s ++ t) ↔ Printable s ∧ Printable t :=
  List.forall_mem_append

theorem printable_cons {c : Char} {s : Str} :
    Printable (c :: s) ↔ (32 ≤ c.toNat ∧ c.toNat ≤ 126) ∧ Printable s := List.forall_mem_cons

@[simp] theorem printable_nil : Printable [] := List.forall_mem_nil _

theorem printable_of_all {s : Str} (all : s.all (fun c => 32 ≤ c.toNat && c.toNat ≤ 126) = true) :
    Printable s := by
  simpa only [Printable, List.all_eq_true, Bool.and_eq_true, decide_eq_true_eq] using all

theorem printable_digitChar {n : Nat} (small : n < 16) : Printable [Nat.digitChar n] := by
  have digits : ∀ n : Fin 16, 32 ≤ (Nat.digitChar n).toNat ∧ (Nat.digitChar n).toNat ≤ 126 := by decide
  exact List.forall_mem_singleton.mpr (digits ⟨n, small⟩)

theorem printable_unicodeEscape (n : Nat) : Printable (unicodeEscape n) := by
  have digit : ∀ m : Nat, 32 ≤ (Nat.digitChar (m % 16)).toNat ∧ (Nat.digitChar (m % 16)).toNat ≤ 126 :=
    fun m => printable_digitChar (Nat.mod_lt m (by decide)) _ (.head _)
  simp only [unicodeEscape, printable_cons, printable_nil, digit]
  decide

theorem printable_escapeChar (c : Char) : Printable (escapeChar c) := by
  rw [escapeChar]
  split
  · next letter short =>
    unfold shortEscape at short
    split at short <;> cases short <;>
      exact List.forall_mem_cons.mpr ⟨by decide, List.forall_mem_singleton.mpr (by decide)⟩
  · split
    · next plain => exact List.forall_mem_singleton.mpr plain
    · split
      · exact printable_unicodeEscape _
      · exact printable_append.mpr ⟨printable_unicodeEscape _, printable_unicodeEscape _⟩

theorem printable_dumpsString (s : Str) : Printable (dumpsString s) := by
  have inner : Printable (s.flatMap escapeChar) := by
    intro c member
    obtain ⟨d, -, inside⟩ := List.mem_flatMap.mp member
    exact printable_escapeChar d c inside
  rw [dumpsString, printable_cons, printable_append]
  exact ⟨by decide, inner, printable_of_all (by decide)⟩

theorem printable_repr (n : Int) : Printable n.repr.toList := by
  have digits : ∀ n : Nat, Printable n.repr.toList := by
    intro n c member
    rw [Nat.toList_repr] at member
    have digit := Nat.isDigit_of_mem_toDigits (by decide) (by decide) member
    simp only [Char.isDigit, Bool.and_eq_true, decide_eq_true_eq] at digit
    have low : '0'.toNat ≤ c.toNat := digit.1
    have high : c.toNat ≤ '9'.toNat := digit.2
    exact ⟨le_trans (by decide) low, le_trans high (by decide)⟩
  rw [Int.repr_eq_if]
  split
  · exact digits _
  · rw [String.toList_append, printable_append]
    exact ⟨printable_of_all (by decide), digits _⟩

section

variable {floatText : Flt → Str}

mutual

theorem printable_dumps (floats : ∀ x, Printable (floatText x)) (value : Json) :
    Printable (dumps floatText value) := by
  cases value with
  | null =>
    rw [dumps]
    exact printable_of_all (by decide)
  | bool b =>
    cases b
    all_goals rw [dumps]; exact printable_of_all (by decide)
  | int n => exact printable_repr n
  | float x => exact floats x
  | str s => exact printable_dumpsString s
  | arr items =>
    rw [dumps, printable_cons, printable_append]
    exact ⟨by decide, printable_dumpsItems floats items, printable_of_all (by decide)⟩
  | obj fields =>
    rw [dumps, printable_cons, printable_append]
    exact ⟨by decide, printable_dumpsFields floats fields, printable_of_all (by decide)⟩

theorem printable_dumpsItems (floats : ∀ x, Printable (floatText x)) (items : List Json) :
    Printable (dumpsItems floatText items) := by
  cases items with
  | nil => exact printable_nil
  | cons item items =>
    rw [dumpsItems, printable_append]
    exact ⟨printable_dumps floats item, printable_dumpsOtherItems floats items⟩

theorem printable_dumpsOtherItems (floats : ∀ x, Printable (floatText x)) (items : List Json) :
    Printable (dumpsOtherItems floatText items) := by
  cases items with
  | nil => exact printable_nil
  | cons item items =>
    rw [dumpsOtherItems, printable_cons, printable_cons, printable_append]
    exact ⟨by decide, by decide, printable_dumps floats item, printable_dumpsOtherItems floats items⟩

theorem printable_dumpsFields (floats : ∀ x, Printable (floatText x)) (fields : List (Str × Json)) :
    Printable (dumpsFields floatText fields) := by
  cases fields with
  | nil => exact printable_nil
  | cons field fields =>
    rw [dumpsFields, printable_append, printable_cons, printable_cons, printable_append]
    exact ⟨printable_dumpsString field.1, by decide, by decide, printable_dumps floats field.2,
      printable_dumpsOtherFields floats fields⟩

theorem printable_dumpsOtherFields (floats : ∀ x, Printable (floatText x)) (fields : List (Str × Json)) :
    Printable (dumpsOtherFields floatText fields) := by
  cases fields with
  | nil => exact printable_nil
  | cons field fields =>
    rw [dumpsOtherFields, printable_cons, printable_cons, printable_append, printable_cons,
      printable_cons, printable_append]
    exact ⟨by decide, by decide, printable_dumpsString field.1, by decide, by decide,
      printable_dumps floats field.2, printable_dumpsOtherFields floats fields⟩

end

end

end BurnLens.Library
