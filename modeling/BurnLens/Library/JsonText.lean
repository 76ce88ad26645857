import BurnLens.Library.Text
import Mathlib.Data.Char

/-! # JSON text

Strings and lists of pairs of strings as `json.dumps` writes them, in ASCII.  The text
determines what was written: a reader of one character undoes the escape of one character.
-/

namespace BurnLens.Library

def unicodeEscape (n : Nat) : Str :=
  ['\\', 'u', Nat.digitChar (n / 4096 % 16), Nat.digitChar (n / 256 % 16),
    Nat.digitChar (n / 16 % 16), Nat.digitChar (n % 16)]

def shortEscape : Char → Option Char
  | '"' => some '"'
  | '\\' => some '\\'
  | '\n' => some 'n'
  | '\r' => some 'r'
  | '\t' => some 't'
  | '\x0c' => some 'f'
  | '\x08' => some 'b'
  | _ => none

def escapeChar (c : Char) : Str :=
  match shortEscape c with
  | some letter => ['\\', letter]
  | none =>
    if 32 ≤ c.toNat ∧ c.toNat ≤ 126 then [c]
    else if c.toNat < 0x10000 then unicodeEscape c.toNat
    else
      -- a pair of surrogates
      unicodeEscape (0xD800 + (c.toNat - 0x10000) / 0x400) ++
        unicodeEscape (0xDC00 + (c.toNat - 0x10000) % 0x400)

def dumpsString (s : Str) : Str := '"' :: (s.flatMap escapeChar ++ ['"'])

/-! ## Reading one character -/

def hexValue (c : Char) : Nat := if c.toNat < 58 then c.toNat - 48 else c.toNat - 87

def readUnit : Str → Option (Nat × Str)
  | '\\' :: 'u' :: a :: b :: c :: d :: rest =>
    some (((hexValue a * 16 + hexValue b) * 16 + hexValue c) * 16 + hexValue d, rest)
  | _ => none

def unescape : Char → Option Char
  | '"' => some '"'
  | '\\' => some '\\'
  | 'n' => some '\n'
  | 'r' => some '\r'
  | 't' => some '\t'
  | 'f' => some '\x0c'
  | 'b' => some '\x08'
  | _ => none

def readChar : Str → Option (Char × Str)
  | '\\' :: 'u' :: digits =>
    match readUnit ('\\' :: 'u' :: digits) with
    | none => none
    | some (unit, rest) =>
      if 0xD800 ≤ unit ∧ unit < 0xDC00 then
        (readUnit rest).map fun (low, rest) =>
          (Char.ofNat (0x10000 + (unit - 0xD800) * 0x400 + (low - 0xDC00)), rest)
      else some (Char.ofNat unit, rest)
  | '\\' :: letter :: rest => (unescape letter).map fun c => (c, rest)
  | c :: rest => some (c, rest)
  | [] => none

theorem hexValue_digitChar {n : Nat} (small : n < 16) : hexValue (Nat.digitChar n) = n := by
  have digits : ∀ n : Fin 16, hexValue (Nat.digitChar n) = n := by decide
  exact digits ⟨n, small⟩

theorem readUnit_unicodeEscape {n : Nat} (small : n < 0x10000) (s : Str) :
    readUnit (unicodeEscape n ++ s) = some (n, s) := by
  simp only [unicodeEscape, List.cons_append, List.nil_append, readUnit]
  rw [hexValue_digitChar (by omega), hexValue_digitChar (by omega), hexValue_digitChar (by omega),
    hexValue_digitChar (by omega)]
  congr 2
  omega

theorem readChar_unicodeEscape {n : Nat} (small : n < 0x10000) (s : Str) :
    readChar (unicodeEscape n ++ s) =
      if 0xD800 ≤ n ∧ n < 0xDC00 then
        (readUnit s).map fun (low, rest) =>
          (Char.ofNat (0x10000 + (n - 0xD800) * 0x400 + (low - 0xDC00)), rest)
      else some (Char.ofNat n, s) := by
  have read := readUnit_unicodeEscape small s
  simp only [unicodeEscape, List.cons_append, List.nil_append] at read ⊢
  rw [readChar, read]

theorem shortEscape_some {c letter : Char} (short : shortEscape c = some letter) :
    letter ≠ 'u' ∧ unescape letter = some c := by
  unfold shortEscape at short
  split at short <;> cases short <;> exact ⟨by decide, rfl⟩

theorem toNat_lt_or_gt (c : Char) : c.toNat < 0xD800 ∨ 0xDFFF < c.toNat ∧ c.toNat < 0x110000 := c.valid

theorem readChar_escapeChar (c : Char) (s : Str) : readChar (escapeChar c ++ s) = some (c, s) := by
  rw [escapeChar]
  cases short : shortEscape c with
  | some letter =>
    obtain ⟨notUnit, back⟩ := shortEscape_some short
    simp only [List.cons_append, List.nil_append]
    rw [readChar]
    · rw [back]
      rfl
    · simpa using notUnit
  | none =>
    have notBackslash : c ≠ '\\' := by
      rintro rfl
      cases short
    have valid := toNat_lt_or_gt c
    simp only
    split_ifs with printable basic
    · rw [List.cons_append, List.nil_append, readChar]
      · exact fun digits same _ => notBackslash same
      · exact fun letter rest same _ => notBackslash same
    · rw [readChar_unicodeEscape (by omega), if_neg (by omega), Char.ofNat_toNat]
    · rw [List.append_assoc, readChar_unicodeEscape (by omega), if_pos (by omega),
        readUnit_unicodeEscape (by omega), Option.map_some]
      simp only
      rw [show 0x10000 + (0xD800 + (c.toNat - 0x10000) / 0x400 - 0xD800) * 0x400 +
        (0xDC00 + (c.toNat - 0x10000) % 0x400 - 0xDC00) = c.toNat by omega, Char.ofNat_toNat]

theorem escapeChar_append_inj {c d : Char} {s t : Str}
    (same : escapeChar c ++ s = escapeChar d ++ t) : c = d ∧ s = t := by
  have read := congrArg readChar same
  rw [readChar_escapeChar, readChar_escapeChar] at read
  simpa using read

theorem escapeChar_ne_quote (c : Char) (s t : Str) : escapeChar c ++ s ≠ '"' :: t := by
  intro same
  rw [escapeChar] at same
  cases short : shortEscape c with
  | some letter => simp [short] at same
  | none =>
    rw [short] at same
    simp only at same
    split_ifs at same
    · simp only [List.cons_append, List.nil_append, List.cons.injEq] at same
      rw [same.1] at short
      cases short
    · simp [unicodeEscape] at same
    · simp [unicodeEscape] at same

/-! ## Strings, pairs and lists -/

theorem dumpsString_append_inj {s t x y : Str}
    (same : dumpsString s ++ x = dumpsString t ++ y) : s = t ∧ x = y := by
  have inner : ∀ s t : Str, s.flatMap escapeChar ++ ('"' :: x) = t.flatMap escapeChar ++ ('"' :: y) →
      s = t ∧ x = y := by
    intro s
    induction s with
    | nil =>
      rintro (_ | ⟨d, t⟩) same
      · simpa using same
      · rw [List.flatMap_nil, List.nil_append, List.flatMap_cons, List.append_assoc] at same
        exact absurd same.symm (escapeChar_ne_quote _ _ _)
    | cons c s inductionHypothesis =>
      rintro (_ | ⟨d, t⟩) same
      · rw [List.flatMap_nil, List.nil_append, List.flatMap_cons, List.append_assoc] at same
        exact absurd same (escapeChar_ne_quote _ _ _)
      · rw [List.flatMap_cons, List.flatMap_cons, List.append_assoc, List.append_assoc] at same
        obtain ⟨rfl, rest⟩ := escapeChar_append_inj same
        obtain ⟨rfl, tails⟩ := inductionHypothesis t rest
        exact ⟨rfl, tails⟩
  apply inner
  simpa [dumpsString] using same

def dumpsPair (pair : Str × Str) : Str :=
  '[' :: (dumpsString pair.1 ++ ',' :: ' ' :: (dumpsString pair.2 ++ [']']))

theorem dumpsPair_append_inj {p q : Str × Str} {x y : Str}
    (same : dumpsPair p ++ x = dumpsPair q ++ y) : p = q ∧ x = y := by
  simp only [dumpsPair, List.cons_append, List.append_assoc, List.nil_append, List.cons.injEq,
    true_and] at same
  obtain ⟨keys, rest⟩ := dumpsString_append_inj same
  simp only [List.cons.injEq, true_and] at rest
  obtain ⟨values, rest⟩ := dumpsString_append_inj rest
  simp only [List.cons.injEq, true_and] at rest
  exact ⟨Prod.ext keys values, rest⟩

/-- `json.dumps` of a list of pairs. -/
def dumpsPairs (pairs : List (Str × Str)) : Str :=
  '[' :: ((", ".toList).intercalate (pairs.map dumpsPair) ++ [']'])

/-- Items and what separates them, when the items are not the first. -/
def tailText (pairs : List (Str × Str)) : Str :=
  pairs.flatMap fun pair => ',' :: ' ' :: dumpsPair pair

theorem intercalate_cons (pair : Str × Str) (pairs : List (Str × Str)) :
    (", ".toList).intercalate ((pair :: pairs).map dumpsPair) = dumpsPair pair ++ tailText pairs := by
  induction pairs generalizing pair with
  | nil => simp [tailText]
  | cons next pairs inductionHypothesis =>
    rw [List.map_cons, List.map_cons, List.intercalate_cons_cons, ← List.map_cons,
      inductionHypothesis]
    simp [tailText]

theorem tailText_inj (ps qs : List (Str × Str)) (same : tailText ps ++ [']'] = tailText qs ++ [']']) :
    ps = qs := by
  induction ps generalizing qs with
  | nil =>
    cases qs with
    | nil => rfl
    | cons q qs => simp [tailText] at same
  | cons p ps inductionHypothesis =>
    cases qs with
    | nil => simp [tailText] at same
    | cons q qs =>
      simp only [tailText, List.flatMap_cons, List.cons_append, List.append_assoc, List.cons.injEq,
        true_and] at same
      obtain ⟨rfl, rest⟩ := dumpsPair_append_inj same
      rw [inductionHypothesis qs rest]

theorem dumpsPairs_injective : Function.Injective dumpsPairs := by
  intro ps qs same
  simp only [dumpsPairs, List.cons.injEq, true_and] at same
  cases ps with
  | nil =>
    cases qs with
    | nil => rfl
    | cons q qs =>
      rw [intercalate_cons] at same
      simp [dumpsPair] at same
  | cons p ps =>
    cases qs with
    | nil =>
      rw [intercalate_cons] at same
      simp [dumpsPair] at same
    | cons q qs =>
      rw [intercalate_cons, intercalate_cons, List.append_assoc, List.append_assoc] at same
      obtain ⟨rfl, rest⟩ := dumpsPair_append_inj same
      rw [tailText_inj ps qs rest]

end BurnLens.Library
