import BurnLens.Library.Hex

/-! # Percent escapes

`unquote` decodes the escapes of a URL: an escape is a byte, runs of bytes are UTF-8, and what
is not UTF-8 becomes U+FFFD.  Characters outside ASCII stand for themselves.
-/

namespace BurnLens.Library

/-- A byte of an escape or of an ASCII character, or a character outside ASCII. -/
inductive UrlUnit where
  | byte (n : Nat)
  | char (c : Char)

def urlUnit (c : Char) : UrlUnit := if c.toNat < 0x80 then .byte c.toNat else .char c

/-- `unquote_to_bytes` on each ASCII run. -/
def urlUnits : Str → List UrlUnit
  | '%' :: high :: low :: s =>
    match hexDigit high, hexDigit low with
    | some a, some b => .byte (16 * a + b) :: urlUnits s
    | _, _ => urlUnit '%' :: urlUnits (high :: low :: s)
  | c :: s => urlUnit c :: urlUnits s
  | [] => []

def replacement : Char := Char.ofNat 0xFFFD

/-- A sequence that has begun: its bits so far, how many bytes are missing, and the range of
    the next one. -/
structure Utf8Sequence where
  bits : Nat
  missing : Nat
  low : Nat
  high : Nat

def beginUnit : UrlUnit → Str × Option Utf8Sequence
  | .char c => ([c], none)
  | .byte n =>
    if n < 0x80 then ([Char.ofNat n], none)
    else if 0xC2 ≤ n ∧ n ≤ 0xDF then ([], some ⟨n - 0xC0, 1, 0x80, 0xBF⟩)
    else if 0xE0 ≤ n ∧ n ≤ 0xEF then
      ([], some ⟨n - 0xE0, 2, if n = 0xE0 then 0xA0 else 0x80, if n = 0xED then 0x9F else 0xBF⟩)
    else if 0xF0 ≤ n ∧ n ≤ 0xF4 then
      ([], some ⟨n - 0xF0, 3, if n = 0xF0 then 0x90 else 0x80, if n = 0xF4 then 0x8F else 0xBF⟩)
    else ([replacement], none)

def continueSequence (sequence : Utf8Sequence) : UrlUnit → Option (Str × Option Utf8Sequence)
  | .char _ => none
  | .byte n =>
    if sequence.low ≤ n ∧ n ≤ sequence.high then
      let bits := 64 * sequence.bits + (n - 0x80)
      if sequence.missing = 1 then some ([Char.ofNat bits], none)
      else some ([], some ⟨bits, sequence.missing - 1, 0x80, 0xBF⟩)
    else none

/-- A unit that does not continue the sequence ends it: the sequence is replaced as a whole,
    and decoding goes on with the unit. -/
def feedUnit (sequence : Option Utf8Sequence) (unit : UrlUnit) : Str × Option Utf8Sequence :=
  match sequence with
  | none => beginUnit unit
  | some sequence =>
    match continueSequence sequence unit with
    | some next => next
    | none => (replacement :: (beginUnit unit).1, (beginUnit unit).2)

/-- `bytes.decode("utf-8", "replace")`. -/
def decodeUtf8 : Option Utf8Sequence → List UrlUnit → Str
  | none, [] => []
  | some _, [] => [replacement]
  | sequence, unit :: units =>
    (feedUnit sequence unit).1 ++ decodeUtf8 (feedUnit sequence unit).2 units

def unquote (s : Str) : Str := decodeUtf8 none (urlUnits s)

example : unquote "anthropic%2Ec%C3%A9%zz%e2%82x" = "anthropic.cé%zz\uFFFDx".toList := by decide

/-! ## Text without escapes, and the length of the rest -/

theorem beginUnit_urlUnit (c : Char) : beginUnit (urlUnit c) = ([c], none) := by
  by_cases ascii : c.toNat < 0x80 <;> simp [urlUnit, ascii, beginUnit]

theorem unquote_eq_self {s : Str} (clean : '%' ∉ s) : unquote s = s := by
  induction s with
  | nil => rfl
  | cons c s inductionHypothesis =>
    simp only [List.mem_cons, not_or] at clean
    -- the clause for an escape does not apply to a text without `%`
    have units : urlUnits (c :: s) = urlUnit c :: urlUnits s := by
      rw [urlUnits]
      rintro high low rest rfl
      exact absurd rfl clean.1
    rw [unquote, units, decodeUtf8, feedUnit, beginUnit_urlUnit]
    exact congrArg (c :: ·) (inductionHypothesis clean.2)

theorem length_urlUnits_le (s : Str) : (urlUnits s).length ≤ s.length := by
  fun_induction urlUnits s with
  | case1 => simp only [List.length_cons]; omega
  | case2 => simp_all
  | case3 => simp_all
  | case4 => simp

def owed (sequence : Option Utf8Sequence) : Nat := if sequence.isSome then 1 else 0

theorem beginUnit_length (unit : UrlUnit) : (beginUnit unit).1.length + owed (beginUnit unit).2 = 1 := by
  cases unit with
  | char c => rfl
  | byte n => simp only [beginUnit]; split_ifs <;> rfl

theorem feedUnit_length (sequence : Option Utf8Sequence) (unit : UrlUnit) :
    (feedUnit sequence unit).1.length + owed (feedUnit sequence unit).2 ≤ owed sequence + 1 := by
  have fresh := beginUnit_length unit
  cases sequence with
  | none => simp only [feedUnit]; omega
  | some sequence =>
    simp only [feedUnit]
    cases continued : continueSequence sequence unit with
    | none => simp only [List.length_cons, owed] at fresh ⊢; simp; omega
    | some next =>
      cases unit with
      | char c => cases continued
      | byte n =>
        simp only [continueSequence] at continued
        split_ifs at continued <;> cases continued <;> simp [owed]

theorem length_decodeUtf8_le (sequence : Option Utf8Sequence) (units : List UrlUnit) :
    (decodeUtf8 sequence units).length ≤ owed sequence + units.length := by
  induction units generalizing sequence with
  | nil => cases sequence <;> simp [decodeUtf8, owed]
  | cons unit units inductionHypothesis =>
    have step := feedUnit_length sequence unit
    have rest := inductionHypothesis (feedUnit sequence unit).2
    cases sequence <;> simp only [decodeUtf8, List.length_append, List.length_cons] <;> omega

theorem length_unquote_le (s : Str) : (unquote s).length ≤ s.length := by
  have units := length_urlUnits_le s
  have decoded := length_decodeUtf8_le none (urlUnits s)
  simp only [owed, Option.isSome_none, Bool.false_eq_true, if_false] at decoded
  simp only [unquote]
  omega

end BurnLens.Library
