import BurnLens.Library.Text
import Mathlib.Algebra.Order.Ring.Rat

/-! # Decoded JSON and the arithmetic of a dynamic language

The values a JSON decoder returns, with the operations a dynamically typed program performs on
them: dictionary access, truth, length and arithmetic, each raising where a value has the wrong
type.  Finite floats are exact rationals, so rounding is left out; a conversion to float
overflows where the language raises.
-/

namespace BurnLens.Library

inductive PyError where
  | typeError
  | attributeError
  | overflowError
  | runtimeError
  | valueError
  | databaseError
deriving DecidableEq, Repr

/-- An exception: the name of its type and its text. -/
structure Raised where
  errorType : Str
  message : Str
deriving DecidableEq

inductive Flt where
  | fin (x : ℚ)
  | inf (negative : Bool)
  | nan
deriving DecidableEq

inductive Json where
  | null
  | bool (b : Bool)
  | int (n : Int)
  | float (x : Flt)
  | str (s : Str)
  | arr (items : List Json)
  | obj (fields : List (Str × Json))

abbrev Fields := List (Str × Json)

/-! ## Dictionaries -/

namespace Fields

def get? (fields : Fields) (key : Str) : Option Json := fields.lookup key

def getD (fields : Fields) (key : Str) (default : Json) : Json := (fields.get? key).getD default

def has (fields : Fields) (key : Str) : Bool := (fields.get? key).isSome

def set (fields : Fields) (key : Str) (value : Json) : Fields :=
  if fields.has key then fields.map fun field => if field.1 = key then (key, value) else field
  else fields ++ [(key, value)]

def mapValues (f : Str → Json → Json) (fields : Fields) : Fields :=
  fields.map fun field => (field.1, f field.1 field.2)

theorem get?_mapValues (f : Str → Json → Json) (fields : Fields) (key : Str) :
    get? (fields.mapValues f) key = (fields.get? key).map (f key) := by
  induction fields with
  | nil => rfl
  | cons field fields inductionHypothesis =>
    obtain ⟨name, value⟩ := field
    simp only [get?, mapValues, List.map_cons, List.lookup_cons] at inductionHypothesis ⊢
    cases same : key == name with
    | true => simp [eq_of_beq same]
    | false => exact inductionHypothesis

theorem getD_mapValues {f : Str → Json → Json} {key : Str} {default : Json}
    (kept : f key default = default) (fields : Fields) :
    (fields.mapValues f).getD key default = f key (fields.getD key default) := by
  simp only [getD, get?_mapValues]
  cases fields.get? key <;> simp [kept]

@[simp] theorem has_mapValues (f : Str → Json → Json) (fields : Fields) (key : Str) :
    (fields.mapValues f).has key = fields.has key := by
  simp [has, get?_mapValues]

theorem get?_set_self {fields : Fields} {key : Str} (present : fields.has key = true)
    (value : Json) : (fields.set key value).get? key = some value := by
  simp only [set, if_pos present]
  induction fields with
  | nil => cases present
  | cons field fields inductionHypothesis =>
    obtain ⟨name, old⟩ := field
    simp only [has, get?, List.map_cons, List.lookup_cons] at present inductionHypothesis ⊢
    by_cases same : name = key
    · simp [same]
    · have other : (key == name) = false := by simpa using fun h => same h.symm
      simp only [other] at present
      simpa [same, List.lookup_cons, other] using inductionHypothesis present

theorem get?_of_not_mem {fields : Fields} {key : Str} (absent : key ∉ fields.map Prod.fst) :
    fields.get? key = none := by
  apply List.lookup_eq_none_iff.mpr
  intro field member
  rw [bne_iff_ne]
  rintro rfl
  exact absent (List.mem_map_of_mem member)

/-- Where no key occurs twice, every entry is found under its key. -/
theorem get?_of_getElem? {fields : Fields} (distinct : (fields.map Prod.fst).Nodup) {i : Nat}
    {key : Str} {value : Json} (here : fields[i]? = some (key, value)) :
    fields.get? key = some value := by
  induction fields generalizing i with
  | nil => cases here
  | cons field fields inductionHypothesis =>
    rw [List.map_cons, List.nodup_cons] at distinct
    cases i with
    | zero => cases here; simp [get?]
    | succ i =>
      have there : fields[i]? = some (key, value) := here
      have other : (key == field.1) = false := by
        rw [beq_eq_false_iff_ne]
        intro same
        exact distinct.1 (same ▸ List.mem_map_of_mem (List.mem_of_getElem? there))
      rw [get?, List.lookup_cons, other]
      exact inductionHypothesis distinct.2 there

theorem get?_set_of_absent {fields : Fields} {key : Str} (absent : fields.has key = false)
    (value : Json) : (fields.set key value).get? key = some value := by
  have missing : fields.lookup key = none := by
    simpa [has, get?] using absent
  simp [set, absent, get?, List.lookup_append, missing]

theorem get?_set (fields : Fields) (key : Str) (value : Json) :
    (fields.set key value).get? key = some value := by
  cases present : fields.has key with
  | true => exact get?_set_self present value
  | false => exact get?_set_of_absent present value

theorem get?_set_of_ne (fields : Fields) {key other : Str} (value : Json) (distinct : other ≠ key) :
    (fields.set key value).get? other = fields.get? other := by
  have differs : (other == key) = false := by simpa using distinct
  have replaced : ∀ fields : Fields, get? (fields.map fun field =>
      if field.1 = key then (key, value) else field) other = fields.get? other := by
    intro fields
    induction fields with
    | nil => rfl
    | cons field fields inductionHypothesis =>
      obtain ⟨name, old⟩ := field
      simp only [get?] at inductionHypothesis ⊢
      by_cases same : name = key
      · simp [same, List.lookup_cons, differs, inductionHypothesis]
      · simp [same, List.lookup_cons, inductionHypothesis]
  simp only [set]
  split
  · exact replaced fields
  · simp [get?, List.lookup_append, List.lookup_cons, differs]

theorem get?_of_mem {fields : Fields} (distinct : (fields.map Prod.fst).Nodup) {key : Str}
    {value : Json} (member : (key, value) ∈ fields) : fields.get? key = some value := by
  obtain ⟨i, here⟩ := List.mem_iff_getElem?.mp member
  exact get?_of_getElem? distinct here

theorem set_append_cons {before after : Fields} {key : Str} {old : Json}
    (distinct : ((before ++ (key, old) :: after).map Prod.fst).Nodup) (value : Json) :
    set (before ++ (key, old) :: after) key value = before ++ (key, value) :: after := by
  have present : has (before ++ (key, old) :: after) key = true := by
    rw [has, get?_of_mem distinct List.mem_append_cons_self, Option.isSome_some]
  rw [List.map_append, List.map_cons, List.nodup_append, List.nodup_cons] at distinct
  obtain ⟨-, ⟨notAfter, -⟩, apart⟩ := distinct
  have notBefore : key ∉ before.map Prod.fst := fun here => apart key here key List.mem_cons_self rfl
  have kept : ∀ fields : Fields, key ∉ fields.map Prod.fst →
      (fields.map fun field => if field.1 = key then (key, value) else field) = fields := by
    intro fields absent
    refine (List.map_congr_left ?_).trans (List.map_id fields)
    intro field member
    refine if_neg ?_
    rintro rfl
    exact absent (List.mem_map_of_mem member)
  rw [set, if_pos present, List.map_append, List.map_cons, kept before notBefore,
    kept after notAfter, if_pos rfl]

theorem get?_filterMap (values : Str → Option Json) (names : List Str) (key : Str) :
    get? (names.filterMap fun name => (values name).map fun value => (name, value)) key =
      if key ∈ names then values key else none := by
  induction names with
  | nil => rfl
  | cons name names inductionHypothesis =>
    rw [List.filterMap_cons]
    by_cases same : key = name
    · subst same
      rw [if_pos (List.mem_cons_self ..)]
      cases has : values key with
      | none =>
        rw [Option.map_none]
        refine inductionHypothesis.trans ?_
        rw [has, ite_self]
      | some value => simp [get?]
    · have rest : (key ∈ name :: names) = (key ∈ names) := by simp [same]
      simp only [rest]
      cases values name with
      | none => exact inductionHypothesis
      | some value =>
        have other : (key == name) = false := by simpa using same
        rw [Option.map_some, get?, List.lookup_cons, other]
        exact inductionHypothesis

end Fields

namespace Json

/-- `bool(value)`. -/
def truthy : Json → Bool
  | null => false
  | bool b => b
  | int n => n ≠ 0
  | float (.fin x) => x ≠ 0
  | float _ => true
  | str s => !s.isEmpty
  | arr items => !items.isEmpty
  | obj fields => !fields.isEmpty

def isText (text : Str) : Json → Bool
  | str s => s = text
  | _ => false

def orElse (value other : Json) : Json := if value.truthy then value else other

/-- The dictionary behind `value.get`. -/
def dict : Json → Except PyError Fields
  | obj fields => .ok fields
  | _ => .error .attributeError

def mapFields (f : Str → Json → Json) : Json → Json
  | obj fields => obj (Fields.mapValues f fields)
  | value => value

theorem isText_self (text : Str) : isText text (str text) = true := decide_eq_true rfl

theorem isText_of_ne {text s : Str} (other : s ≠ text) : isText text (str s) = false :=
  decide_eq_false other

theorem dict_mapFields (f : Str → Json → Json) (value : Json) :
    (value.mapFields f).dict = value.dict.map (Fields.mapValues f) := by
  cases value <;> rfl

@[simp] theorem truthy_mapFields (f : Str → Json → Json) (value : Json) :
    (value.mapFields f).truthy = value.truthy := by
  cases value with
  | obj fields => simp [mapFields, truthy, Fields.mapValues]
  | _ => rfl

def len : Json → Except PyError Nat
  | str s => .ok s.length
  | arr items => .ok items.length
  | obj fields => .ok fields.length
  | _ => .error .typeError

/-- Can the value be a dictionary key or the member of a set? -/
def hashable : Json → Bool
  | arr _ | obj _ => false
  | _ => true

end Json

namespace Flt

def neg : Flt → Flt
  | fin x => fin (-x)
  | inf negative => inf !negative
  | nan => nan

def add : Flt → Flt → Flt
  | fin x, fin y => fin (x + y)
  | nan, _ | _, nan => nan
  | inf a, inf b => if a = b then inf a else nan
  | inf a, fin _ | fin _, inf a => inf a

def sub (x y : Flt) : Flt := x.add y.neg

/-- `x * y` for a finite `y`. -/
def scale (y : ℚ) : Flt → Flt
  | fin x => fin (x * y)
  | inf negative => if y = 0 then nan else inf (negative != decide (y < 0))
  | nan => nan

def exceeds (y : ℚ) : Flt → Bool
  | fin x => y < x
  | inf negative => !negative
  | nan => false

def atMost (y : ℚ) : Flt → Bool
  | fin x => x ≤ y
  | inf negative => negative
  | nan => false

end Flt

/-! ## Numbers -/

inductive Number where
  | int (n : Int)
  | float (x : Flt)
deriving DecidableEq

/-- A finite double is below 2 to this power, and its significand has 53 bits. -/
@[irreducible] def doubleExponent : Nat := 1024

def floatLimit : Nat := 2 ^ doubleExponent - 2 ^ (doubleExponent - 54)

theorem lt_floatLimit {n : Nat} (small : n < 2 ^ 64) : n < floatLimit := by
  have exponent : 118 ≤ doubleExponent := by rw [doubleExponent]; decide
  have double : 2 ^ (doubleExponent - 54) * 2 ≤ 2 ^ doubleExponent := by
    rw [← Nat.pow_succ]
    exact Nat.pow_le_pow_right (by omega) (by omega)
  have reach : 2 ^ 64 ≤ 2 ^ (doubleExponent - 54) := Nat.pow_le_pow_right (by omega) (by omega)
  simp only [floatLimit]
  omega

namespace Number

def fits : Number → Bool
  | int n => n.natAbs < floatLimit
  | float _ => true

def toFloat : Number → Except PyError Flt
  | int n => if n.natAbs < floatLimit then .ok (.fin n) else .error .overflowError
  | float x => .ok x

/-- `a - b`: exact on integers, and on floats as soon as one operand is a float. -/
def sub : Number → Number → Except PyError Number
  | int m, int n => .ok (int (m - n))
  | a, b => do return float (Flt.sub (← a.toFloat) (← b.toFloat))

def exceeds (bound : Int) : Number → Bool
  | int n => bound < n
  | float x => x.exceeds bound

def max0 (a : Number) : Number := if a.exceeds 0 then a else int 0

def times (a : Number) (rate : ℚ) : Except PyError Flt := do
  return (← a.toFloat).scale rate

theorem toFloat_of_fits {a : Number} (fits : a.fits = true) : ∃ x, a.toFloat = .ok x := by
  cases a with
  | int n => exact ⟨.fin n, if_pos (by simpa [Number.fits] using fits)⟩
  | float x => exact ⟨x, rfl⟩

theorem toFloat_of_not_fits {a : Number} (large : a.fits = false) :
    a.toFloat = .error .overflowError := by
  cases a with
  | int n => exact if_neg (by simpa only [Number.fits, decide_eq_false_iff_not] using large)
  | float x => cases large

@[simp] theorem toFloat_isOk (a : Number) : a.toFloat.isOk = a.fits := by
  cases fit : a.fits with
  | true => obtain ⟨x, same⟩ := toFloat_of_fits fit; simp [same, Except.isOk, Except.toBool]
  | false => simp [toFloat_of_not_fits fit, Except.isOk, Except.toBool]

@[simp] theorem times_isOk (a : Number) (rate : ℚ) : (a.times rate).isOk = a.fits := by
  rw [← toFloat_isOk, times]
  cases a.toFloat <;> rfl

theorem fits_int {n : Int} : (int n).fits = true ↔ n.natAbs < floatLimit := by
  simp [fits]

theorem toFloat_int {n : Int} (small : n.natAbs < floatLimit) : (int n).toFloat = .ok (.fin n) :=
  if_pos small

theorem max0_int (n : Int) : (int n).max0 = int (max 0 n) := by
  simp only [max0, exceeds, decide_eq_true_eq]
  split
  · rw [max_eq_right (by omega)]
  · rw [max_eq_left (by omega)]

end Number

def Number.toJson : Number → Json
  | .int n => .int n
  | .float x => .float x

/-- The number that arithmetic makes of a value: booleans count as 0 and 1. -/
def Json.number : Json → Except PyError Number
  | .bool b => .ok (.int b.toInt)
  | .int n => .ok (.int n)
  | .float x => .ok (.float x)
  | _ => .error .typeError

@[simp] theorem Number.number_toJson (a : Number) : a.toJson.number = .ok a := by cases a <;> rfl

theorem bind_eq_ok {ε α β : Type} {x : Except ε α} {f : α → Except ε β} {b : β} :
    (x >>= f) = .ok b ↔ ∃ a, x = .ok a ∧ f a = .ok b := by
  cases x with
  | error error => simp [bind, Except.bind]
  | ok a => simp [bind, Except.bind]

theorem mapM_ok {ε α β : Type} {items : List α} {f : α → Except ε β} {g : α → β}
    (each : ∀ item ∈ items, f item = .ok (g item)) : items.mapM f = .ok (items.map g) := by
  induction items with
  | nil => rfl
  | cons item items inductionHypothesis =>
    rw [List.forall_mem_cons] at each
    rw [List.mapM_cons, each.1, inductionHypothesis each.2]
    rfl

end BurnLens.Library
