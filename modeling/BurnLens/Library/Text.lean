import Mathlib.Data.List.Basic
import Mathlib.Data.List.DropRight
import Mathlib.Data.List.Infix

/-! # Text

Strings as lists of characters, with the string methods of the source language under their
own names.  `lower` covers Latin-1, the alphabet in which header names arrive.
-/

namespace BurnLens.Library

abbrev Str := List Char

instance : Coe String Str := ⟨String.toList⟩

instance : LawfulBEq Str := inferInstance

theorem str_ne {s t : String} (distinct : s ≠ t) : (s : Str) ≠ t := mt String.toList_inj.mp distinct

def lowerChar (c : Char) : Char :=
  if ('A' ≤ c ∧ c ≤ 'Z') ∨ ('À' ≤ c ∧ c ≤ 'Þ' ∧ c ≠ '×') then Char.ofNat (c.toNat + 32) else c

def lower (s : Str) : Str := s.map lowerChar

/-- `str.isspace` of one character. -/
def isSpace (c : Char) : Bool :=
  let n := c.toNat
  (9 ≤ n && n ≤ 13) || (28 ≤ n && n ≤ 32) || n == 0x85 || n == 0xA0 || n == 0x1680 ||
    (0x2000 ≤ n && n ≤ 0x200A) || n == 0x2028 || n == 0x2029 || n == 0x202F || n == 0x205F ||
    n == 0x3000

/-- The zeros of the decimal digits of Unicode 14: each begins a run of ten. -/
def decimalZeros : List Nat :=
  [0x30, 0x660, 0x6F0, 0x7C0, 0x966, 0x9E6, 0xA66, 0xAE6, 0xB66, 0xBE6, 0xC66, 0xCE6, 0xD66, 0xDE6,
   0xE50, 0xED0, 0xF20, 0x1040, 0x1090, 0x17E0, 0x1810, 0x1946, 0x19D0, 0x1A80, 0x1A90, 0x1B50,
   0x1BB0, 0x1C40, 0x1C50, 0xA620, 0xA8D0, 0xA900, 0xA9D0, 0xA9F0, 0xAA50, 0xABF0, 0xFF10, 0x104A0,
   0x10D30, 0x11066, 0x110F0, 0x11136, 0x111D0, 0x112F0, 0x11450, 0x114D0, 0x11650, 0x116C0,
   0x11730, 0x118E0, 0x11950, 0x11C50, 0x11D50, 0x11DA0, 0x16A60, 0x16AC0, 0x16B50, 0x1D7CE,
   0x1D7D8, 0x1D7E2, 0x1D7EC, 0x1D7F6, 0x1E140, 0x1E2F0, 0x1E950, 0x1FBF0]

/-- `\d` of a regular expression. -/
def isDecimal (c : Char) : Bool :=
  decimalZeros.any fun start => start ≤ c.toNat && c.toNat < start + 10

def strip (s : Str) : Str := (s.dropWhile isSpace).rdropWhile isSpace

def startsWith (initial s : Str) : Bool := initial.isPrefixOf s

def removePrefix (initial s : Str) : Str :=
  if startsWith initial s then s.drop initial.length else s

/-- `s.split(c, 1)[0]`. -/
def before (c : Char) (s : Str) : Str := s.takeWhile (· ≠ c)

def afterFirst (marker : Str) : Str → Option Str
  | [] => if marker = [] then some [] else none
  | c :: s =>
    if startsWith marker (c :: s) then some ((c :: s).drop marker.length)
    else afterFirst marker s

/-- `marker in s`. -/
def contains (marker s : Str) : Bool := (afterFirst marker s).isSome

/-! ## Prefixes and occurrences -/

theorem startsWith_iff {initial s : Str} : startsWith initial s = true ↔ ∃ rest, s = initial ++ rest := by
  simp only [startsWith, List.isPrefixOf_iff_prefix]
  exact ⟨fun ⟨rest, same⟩ => ⟨rest, same.symm⟩, fun ⟨rest, same⟩ => ⟨rest, same.symm⟩⟩

theorem startsWith_append (initial rest : Str) : startsWith initial (initial ++ rest) = true :=
  startsWith_iff.mpr ⟨rest, rfl⟩

theorem startsWith_append_left {initial front : Str} (back : Str)
    (long : initial.length ≤ front.length) :
    startsWith initial (front ++ back) = startsWith initial front := by
  rw [Bool.eq_iff_iff, startsWith, startsWith, List.isPrefixOf_iff_prefix,
    List.isPrefixOf_iff_prefix]
  exact ⟨fun h => List.prefix_of_prefix_length_le h (List.prefix_append front back) long,
    fun h => h.trans (List.prefix_append front back)⟩

theorem afterFirst_split {marker s rest : Str} (found : afterFirst marker s = some rest) :
    ∃ front, s = front ++ (marker ++ rest) := by
  induction s with
  | nil =>
    simp only [afterFirst] at found
    split at found
    · next empty => cases found; exact ⟨[], by simp [empty]⟩
    · cases found
  | cons c s inductionHypothesis =>
    simp only [afterFirst] at found
    split at found
    · next starts =>
      cases found
      obtain ⟨rest, same⟩ := startsWith_iff.mp starts
      exact ⟨[], by simp [same]⟩
    · obtain ⟨front, same⟩ := inductionHypothesis found
      exact ⟨c :: front, by simp [same]⟩

theorem afterFirst_append {marker front rest : Str} (back : Str)
    (found : afterFirst marker front = some rest) :
    afterFirst marker (front ++ back) = some (rest ++ back) := by
  induction front with
  | nil =>
    simp only [afterFirst] at found
    split at found
    · next empty =>
      cases found
      subst empty
      cases back <;> simp [afterFirst, startsWith]
    · cases found
  | cons c front inductionHypothesis =>
    simp only [afterFirst] at found
    rw [List.cons_append, afterFirst, ← List.cons_append]
    split at found
    · next starts =>
      cases found
      obtain ⟨rest, same⟩ := startsWith_iff.mp starts
      rw [same, List.append_assoc, startsWith_append]
      simp
    · next starts =>
      -- the occurrence that was found lies in `front`, so `marker` fits in front of `back`
      have fits : marker.length ≤ (c :: front).length := by
        obtain ⟨earlier, same⟩ := afterFirst_split found
        rw [List.length_cons, same, List.length_append, List.length_append]
        omega
      rw [startsWith_append_left back fits, if_neg starts]
      exact inductionHypothesis found

theorem contains_iff {marker s : Str} : contains marker s = true ↔ marker <:+: s := by
  constructor
  · intro found
    obtain ⟨rest, same⟩ := Option.isSome_iff_exists.mp found
    obtain ⟨front, rfl⟩ := afterFirst_split same
    exact ⟨front, rest, List.append_assoc _ _ _⟩
  · rintro ⟨front, back, rfl⟩
    rw [List.append_assoc, contains]
    induction front with
    | nil =>
      have starts := startsWith_append marker back
      rw [List.nil_append]
      cases whole : marker ++ back with
      | nil => rw [List.append_eq_nil_iff.mp whole |>.1]; rfl
      | cons c s => rw [afterFirst, ← whole, if_pos starts]; rfl
    | cons c front inductionHypothesis =>
      rw [List.cons_append, afterFirst]
      split
      · rfl
      · exact inductionHypothesis

end BurnLens.Library
