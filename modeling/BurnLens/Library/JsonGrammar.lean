import BurnLens.Library.Utf8

/-! # The grammar of JSON

The bytes of a JSON text in UTF-8, symbol by symbol.  Between the quotes of a string any byte may
stand but a quote, a backslash and the control characters, so every character does: all bytes of
one beyond ASCII are above them.
-/

namespace BurnLens.Library

abbrev Bytes := List UInt8

namespace Ascii

def quote : UInt8 := 0x22
def plus : UInt8 := 0x2B
def comma : UInt8 := 0x2C
def minus : UInt8 := 0x2D
def point : UInt8 := 0x2E
def zero : UInt8 := 0x30
def nine : UInt8 := 0x39
def colon : UInt8 := 0x3A
def openBracket : UInt8 := 0x5B
def backslash : UInt8 := 0x5C
def closeBracket : UInt8 := 0x5D
def openBrace : UInt8 := 0x7B
def closeBrace : UInt8 := 0x7D

end Ascii

open Ascii

/-- Space, tab, line feed and carriage return. -/
def IsWhite (bytes : Bytes) : Prop := ∀ byte ∈ bytes, byte ∈ ([0x20, 0x09, 0x0A, 0x0D] : Bytes)

def AreDigits (bytes : Bytes) : Prop := bytes ≠ [] ∧ ∀ byte ∈ bytes, zero ≤ byte ∧ byte ≤ nine

def IsHex (byte : UInt8) : Prop :=
  zero ≤ byte ∧ byte ≤ nine ∨ 0x41 ≤ byte ∧ byte ≤ 0x46 ∨ 0x61 ≤ byte ∧ byte ≤ 0x66

instance (byte : UInt8) : Decidable (IsHex byte) :=
  inferInstanceAs (Decidable (_ ∨ _ ∨ _))

/-- `[minus] int [frac] [exp]`. -/
structure IsNumber (bytes : Bytes) : Prop where
  parts : ∃ sign whole fraction exponent : Bytes, bytes = sign ++ whole ++ fraction ++ exponent ∧
    (sign = [] ∨ sign = [minus]) ∧
    (whole = [zero] ∨ AreDigits whole ∧ whole.head? ≠ some zero) ∧
    (fraction = [] ∨ ∃ digits, AreDigits digits ∧ fraction = point :: digits) ∧
    (exponent = [] ∨ ∃ letter direction digits, letter ∈ ([0x45, 0x65] : Bytes) ∧
      (direction = [] ∨ direction = [plus] ∨ direction = [minus]) ∧ AreDigits digits ∧
      exponent = letter :: (direction ++ digits))

/-- What stands between the quotes of a string. -/
inductive IsContent : Bytes → Prop where
  | empty : IsContent []
  | plain {byte : UInt8} {bytes : Bytes} (notQuote : byte ≠ quote) (notBackslash : byte ≠ backslash)
      (printable : 0x20 ≤ byte) (rest : IsContent bytes) : IsContent (byte :: bytes)
  -- quote, backslash, slash, b, f, n, r and t
  | escape {letter : UInt8} {bytes : Bytes}
      (short : letter ∈ ([quote, backslash, 0x2F, 0x62, 0x66, 0x6E, 0x72, 0x74] : Bytes))
      (rest : IsContent bytes) : IsContent (backslash :: letter :: bytes)
  | unit {a b c d : UInt8} {bytes : Bytes} (hexA : IsHex a) (hexB : IsHex b) (hexC : IsHex c)
      (hexD : IsHex d) (rest : IsContent bytes) :
      IsContent (backslash :: 0x75 :: a :: b :: c :: d :: bytes)

def quoted (content : Bytes) : Bytes := quote :: (content ++ [quote])

inductive JsonSymbol where
  | value
  -- what stands between the brackets of an array, or the braces of an object, where that is not empty
  | elements
  | members

inductive Derives : JsonSymbol → Bytes → Prop where
  | literal {bytes : Bytes} (word : bytes ∈ [utf8 "null", utf8 "true", utf8 "false"]) :
      Derives .value bytes
  | number {bytes : Bytes} (number : IsNumber bytes) : Derives .value bytes
  | string {content : Bytes} (body : IsContent content) : Derives .value (quoted content)
  | emptyArray {white : Bytes} (space : IsWhite white) :
      Derives .value (openBracket :: (white ++ [closeBracket]))
  | array {inner : Bytes} (items : Derives .elements inner) :
      Derives .value (openBracket :: (inner ++ [closeBracket]))
  | emptyObject {white : Bytes} (space : IsWhite white) :
      Derives .value (openBrace :: (white ++ [closeBrace]))
  | object {inner : Bytes} (items : Derives .members inner) :
      Derives .value (openBrace :: (inner ++ [closeBrace]))
  | element {before value after : Bytes} (spaceBefore : IsWhite before) (item : Derives .value value)
      (spaceAfter : IsWhite after) : Derives .elements (before ++ value ++ after)
  | elements {before value after more : Bytes} (spaceBefore : IsWhite before)
      (item : Derives .value value) (spaceAfter : IsWhite after) (others : Derives .elements more) :
      Derives .elements (before ++ value ++ after ++ comma :: more)
  | member {before key between after value last : Bytes} (spaceBefore : IsWhite before)
      (name : IsContent key) (spaceBetween : IsWhite between) (spaceAfter : IsWhite after)
      (item : Derives .value value) (spaceLast : IsWhite last) :
      Derives .members (before ++ quoted key ++ between ++ colon :: (after ++ value ++ last))
  | members {before key between after value last more : Bytes} (spaceBefore : IsWhite before)
      (name : IsContent key) (spaceBetween : IsWhite between) (spaceAfter : IsWhite after)
      (item : Derives .value value) (spaceLast : IsWhite last) (others : Derives .members more) :
      Derives .members (before ++ quoted key ++ between ++ colon :: (after ++ value ++ last) ++
        comma :: more)

def IsObject (bytes : Bytes) : Prop :=
  ∃ inner, (IsWhite inner ∨ Derives .members inner) ∧ bytes = openBrace :: (inner ++ [closeBrace])

theorem IsObject.head {bytes : Bytes} (encoding : IsObject bytes) :
    bytes.head? = some openBrace := by
  obtain ⟨inner, _, rfl⟩ := encoding
  rfl

/-! ## Bytes without structure -/

def Quiet (byte : UInt8) : Prop := byte ≠ quote ∧ byte ≠ openBrace ∧ byte ≠ closeBrace

instance (byte : UInt8) : Decidable (Quiet byte) :=
  inferInstanceAs (Decidable (_ ∧ _ ∧ _))

theorem quiet_of_all {bytes : Bytes} (all : bytes.all (fun byte => decide (Quiet byte)) = true) :
    ∀ byte ∈ bytes, Quiet byte :=
  fun byte member => of_decide_eq_true (List.all_eq_true.mp all byte member)

theorem quiet_white {white : Bytes} (space : IsWhite white) : ∀ byte ∈ white, Quiet byte := by
  intro byte member
  exact quiet_of_all (by decide) byte (space byte member)

theorem quiet_digits {digits : Bytes} (are : AreDigits digits) : ∀ byte ∈ digits, Quiet byte := by
  intro byte member
  obtain ⟨least, most⟩ := are.2 byte member
  refine ⟨?_, ?_, ?_⟩
  all_goals
    rintro rfl
    first | exact absurd least (by decide) | exact absurd most (by decide)

theorem quiet_append {front back : Bytes} (quietFront : ∀ byte ∈ front, Quiet byte)
    (quietBack : ∀ byte ∈ back, Quiet byte) : ∀ byte ∈ front ++ back, Quiet byte :=
  List.forall_mem_append.mpr ⟨quietFront, quietBack⟩

theorem quiet_number {bytes : Bytes} (number : IsNumber bytes) : ∀ byte ∈ bytes, Quiet byte := by
  obtain ⟨sign, whole, fraction, exponent, rfl, signed, integer, fractional, scaled⟩ := number.parts
  have quietSign : ∀ byte ∈ sign, Quiet byte := by
    cases signed with
    | inl none => simp [none]
    | inr negative => exact negative ▸ quiet_of_all (by decide)
  have quietWhole : ∀ byte ∈ whole, Quiet byte := by
    cases integer with
    | inl single => exact single ▸ quiet_of_all (by decide)
    | inr digits => exact quiet_digits digits.1
  have quietFraction : ∀ byte ∈ fraction, Quiet byte := by
    cases fractional with
    | inl none => simp [none]
    | inr some =>
      obtain ⟨digits, are, rfl⟩ := some
      exact List.forall_mem_cons.mpr ⟨by decide, quiet_digits are⟩
  have quietExponent : ∀ byte ∈ exponent, Quiet byte := by
    cases scaled with
    | inl none => simp [none]
    | inr some =>
      obtain ⟨letter, direction, digits, marker, directed, are, rfl⟩ := some
      have quietLetter : ∀ b ∈ ([0x45, 0x65] : Bytes), Quiet b := quiet_of_all (by decide)
      have quietDirection : ∀ byte ∈ direction, Quiet byte := by
        obtain rfl | rfl | rfl := directed
        · simp
        · exact quiet_of_all (by decide)
        · exact quiet_of_all (by decide)
      exact List.forall_mem_cons.mpr ⟨quietLetter letter marker,
        quiet_append quietDirection (quiet_digits are)⟩
  exact quiet_append (quiet_append (quiet_append quietSign quietWhole) quietFraction) quietExponent

theorem quiet_literal {bytes : Bytes} (word : bytes ∈ [utf8 "null", utf8 "true", utf8 "false"]) :
    ∀ byte ∈ bytes, Quiet byte := by
  simp only [List.mem_cons, List.not_mem_nil, or_false] at word
  obtain rfl | rfl | rfl := word
  · exact quiet_of_all (by decide)
  · exact quiet_of_all (by decide)
  · exact quiet_of_all (by decide)

end BurnLens.Library
