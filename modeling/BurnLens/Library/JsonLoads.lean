import BurnLens.Library.FloatText
import BurnLens.Library.Hex
import BurnLens.Library.JsonDumps

/-! # Reading JSON

`json.loads`, and that it reads back what `json.dumps` wrote.  A text is read from its front, in as many
steps as it has characters at most.
-/

namespace BurnLens.Library

def isJsonSpace (c : Char) : Bool := c = ' ' || c = '\t' || c = '\n' || c = '\r'

def skipSpace (s : Str) : Str := s.dropWhile isJsonSpace

def readHex4 : Str → Option (Nat × Str)
  | a :: b :: c :: d :: rest =>
    match hexDigit a, hexDigit b, hexDigit c, hexDigit d with
    | some a, some b, some c, some d => some (((a * 16 + b) * 16 + c) * 16 + d, rest)
    | _, _, _, _ => none
  | _ => none

/-- What follows `\u`.  A surrogate without the other one is no character. -/
def readUnicode (s : Str) : Option (Char × Str) :=
  match readHex4 s with
  | none => none
  | some (unit, rest) =>
    if 0xD800 ≤ unit ∧ unit < 0xDC00 then
      match rest with
      | '\\' :: 'u' :: digits =>
        match readHex4 digits with
        | some (low, rest) =>
          if 0xDC00 ≤ low ∧ low < 0xE000 then
            some (Char.ofNat (0x10000 + (unit - 0xD800) * 0x400 + (low - 0xDC00)), rest)
          else none
        | none => none
      | _ => none
    else if 0xDC00 ≤ unit ∧ unit < 0xE000 then none
    else some (Char.ofNat unit, rest)

/-- One character between the quotes of a string. -/
def readCharacter : Str → Option (Char × Str)
  | [] => none
  | '\\' :: 'u' :: digits => readUnicode digits
  | '\\' :: '/' :: rest => some ('/', rest)
  | '\\' :: letter :: rest => (unescape letter).map fun c => (c, rest)
  | c :: rest => if c = '\\' ∨ c.toNat < 32 then none else some (c, rest)

def readContent : (fuel : Nat) → Str → Option (Str × Str)
  | 0, _ => none
  | _ + 1, '"' :: rest => some ([], rest)
  | fuel + 1, s =>
    match readCharacter s with
    | none => none
    | some (c, rest) => (readContent fuel rest).map fun (text, after) => (c :: text, after)

def readString (s : Str) : Option (Str × Str) := readContent s.length s

/-! ## Values -/

def jsonWords : List (Str × Json) :=
  [("null".toList, .null), ("true".toList, .bool true), ("false".toList, .bool false),
   ("NaN".toList, .float .nan), ("Infinity".toList, .float (.inf false)),
   ("-Infinity".toList, .float (.inf true))]

def readWord (s : Str) : Option (Json × Str) :=
  jsonWords.findSome? fun word =>
    if word.1.isPrefixOf s then some (word.2, s.drop word.1.length) else none

def NumberLiteral.json (l : NumberLiteral) : Json :=
  if l.isInteger then .int l.integer else .float l.float

def readNumber (s : Str) : Option (Json × Str) :=
  (readLiteral s).map fun (l, rest) => (l.json, rest)

mutual

def readValue : (fuel : Nat) → Str → Option (Json × Str)
  | 0, _ => none
  | _ + 1, [] => none
  | fuel + 1, c :: s =>
    if c = '"' then (readString s).map fun (text, rest) => (.str text, rest)
    else if c = '{' then
      match skipSpace s with
      | '}' :: rest => some (.obj [], rest)
      | s => (readMembers fuel [] s).map fun (fields, rest) => (.obj fields, rest)
    else if c = '[' then
      match skipSpace s with
      | ']' :: rest => some (.arr [], rest)
      | s => (readItems fuel s).map fun (items, rest) => (.arr items, rest)
    else
      match readWord (c :: s) with
      | some found => some found
      | none => readNumber (c :: s)

def readItems : (fuel : Nat) → Str → Option (List Json × Str)
  | 0, _ => none
  | fuel + 1, s =>
    match readValue fuel s with
    | none => none
    | some (item, rest) =>
      match skipSpace rest with
      | ']' :: rest => some ([item], rest)
      | ',' :: rest =>
        (readItems fuel (skipSpace rest)).map fun (items, rest) => (item :: items, rest)
      | _ => none

/-- The members of an object, of which these are read: a later one replaces an earlier one of its
key. -/
def readMembers : (fuel : Nat) → Fields → Str → Option (Fields × Str)
  | fuel + 1, fields, '"' :: s =>
    match readString s with
    | none => none
    | some (key, rest) =>
      match skipSpace rest with
      | ':' :: rest =>
        match readValue fuel (skipSpace rest) with
        | none => none
        | some (value, rest) =>
          match skipSpace rest with
          | '}' :: rest => some (fields.set key value, rest)
          | ',' :: rest => readMembers fuel (fields.set key value) (skipSpace rest)
          | _ => none
      | _ => none
  | _, _, _ => none

end

/-- `json.loads`; nothing where it raises. -/
def loads (s : Str) : Option Json :=
  match readValue (s.length + 1) (skipSpace s) with
  | some (value, rest) => if skipSpace rest = [] then some value else none
  | none => none

/-! ## Reading characters back -/

theorem hexDigit_digitChar {n : Nat} (small : n < 16) : hexDigit (Nat.digitChar n) = some n := by
  have digits : ∀ n : Fin 16, hexDigit (Nat.digitChar n) = some n.val := by decide
  exact digits ⟨n, small⟩

def hex4 (n : Nat) : Str :=
  [Nat.digitChar (n / 4096 % 16), Nat.digitChar (n / 256 % 16), Nat.digitChar (n / 16 % 16),
    Nat.digitChar (n % 16)]

theorem unicodeEscape_eq (n : Nat) : unicodeEscape n = '\\' :: 'u' :: hex4 n := rfl

theorem readHex4_append {n : Nat} (small : n < 0x10000) (rest : Str) :
    readHex4 (hex4 n ++ rest) = some (n, rest) := by
  have digit : ∀ m : Nat, hexDigit (Nat.digitChar (m % 16)) = some (m % 16) :=
    fun m => hexDigit_digitChar (Nat.mod_lt m (by decide))
  have sum : ((n / 4096 % 16 * 16 + n / 256 % 16) * 16 + n / 16 % 16) * 16 + n % 16 = n := by omega
  simp only [hex4, List.cons_append, List.nil_append, readHex4, digit, sum]

theorem readUnicode_unit {n : Nat} (small : n < 0x10000) (character : n < 0xD800 ∨ 0xDFFF < n)
    (rest : Str) : readUnicode (hex4 n ++ rest) = some (Char.ofNat n, rest) := by
  rw [readUnicode, readHex4_append small]
  simp only
  rw [if_neg (by omega), if_neg (by omega)]

theorem readUnicode_pair {high low : Nat} (h : 0xD800 ≤ high ∧ high < 0xDC00)
    (l : 0xDC00 ≤ low ∧ low < 0xE000) (rest : Str) :
    readUnicode (hex4 high ++ (unicodeEscape low ++ rest)) =
      some (Char.ofNat (0x10000 + (high - 0xD800) * 0x400 + (low - 0xDC00)), rest) := by
  rw [readUnicode, readHex4_append (by omega), unicodeEscape_eq]
  simp only [List.cons_append]
  rw [if_pos h, readHex4_append (by omega)]
  simp only
  rw [if_pos l]

theorem readCharacter_short {c letter : Char} (short : shortEscape c = some letter) (rest : Str) :
    readCharacter ('\\' :: letter :: rest) = some (c, rest) := by
  obtain ⟨notUnit, back⟩ := shortEscape_some short
  have notSlash : letter ≠ '/' := by
    rintro rfl
    cases back
  rw [readCharacter, back]
  · rfl
  · simpa using notUnit
  · simpa using notSlash

theorem readCharacter_escapeChar (c : Char) (rest : Str) :
    readCharacter (escapeChar c ++ rest) = some (c, rest) := by
  rw [escapeChar]
  cases short : shortEscape c with
  | some letter => exact readCharacter_short short rest
  | none =>
    have notBackslash : c ≠ '\\' := by
      rintro rfl
      cases short
    have valid := toNat_lt_or_gt c
    simp only
    split_ifs with printable basic
    · rw [List.cons_append, List.nil_append, readCharacter]
      · rw [if_neg]
        rintro (same | control)
        · exact notBackslash same
        · omega
      · exact fun digits same _ => notBackslash same
      · exact fun after same _ => notBackslash same
      · exact fun letter after same _ => notBackslash same
    · rw [unicodeEscape_eq, List.cons_append, List.cons_append, readCharacter,
        readUnicode_unit basic (by omega), Char.ofNat_toNat]
    · have sum : 0x10000 + (0xD800 + (c.toNat - 0x10000) / 0x400 - 0xD800) * 0x400 +
          (0xDC00 + (c.toNat - 0x10000) % 0x400 - 0xDC00) = c.toNat := by omega
      rw [List.append_assoc, unicodeEscape_eq, List.cons_append, List.cons_append, readCharacter,
        readUnicode_pair (by omega) (by omega), sum, Char.ofNat_toNat]

theorem readContent_append (s rest : Str) {fuel : Nat} (enough : s.length < fuel) :
    readContent fuel (s.flatMap escapeChar ++ '"' :: rest) = some (s, rest) := by
  induction s generalizing fuel with
  | nil =>
    obtain ⟨fuel, rfl⟩ := Nat.exists_eq_add_of_lt enough
    simp [readContent]
  | cons c s inductionHypothesis =>
    cases fuel with
    | zero => simp at enough
    | succ fuel =>
      rw [List.flatMap_cons, List.append_assoc, readContent, readCharacter_escapeChar]
      · simp only
        rw [inductionHypothesis (by simpa using enough)]
        rfl
      · exact fun after => escapeChar_ne_quote c _ after

theorem length_flatMap_escapeChar (s : Str) : s.length ≤ (s.flatMap escapeChar).length := by
  induction s with
  | nil => exact Nat.le_refl 0
  | cons c s inductionHypothesis =>
    have some : 0 < (escapeChar c).length := by
      rw [escapeChar]
      split
      · simp
      · split_ifs <;> simp [unicodeEscape]
    rw [List.flatMap_cons, List.length_append, List.length_cons]
    omega

theorem readString_append (s rest : Str) :
    readString (s.flatMap escapeChar ++ '"' :: rest) = some (s, rest) := by
  have shorter := length_flatMap_escapeChar s
  apply readContent_append
  rw [List.length_append, List.length_cons]
  omega

/-! ## Reading numbers back -/

def Whole.ofNat (n : Nat) : Whole where
  toDigits := .ofNat n
  leading head := by
    cases n with
    | zero => rfl
    | succ n => exact absurd head (head_toDigits n.succ_pos)

def intLiteral (n : ℤ) : NumberLiteral := ⟨n < 0, .ofNat n.natAbs, none, none⟩

theorem text_intLiteral (n : ℤ) : (intLiteral n).text = n.repr.toList := by
  rw [Int.repr_eq_if]
  by_cases negative : n < 0
  · have nonneg : ¬ 0 ≤ n := not_le.mpr negative
    have size : n.natAbs = (-n).toNat := by omega
    simp [NumberLiteral.text, intLiteral, negative, nonneg, Whole.ofNat, Digits.ofNat, fractionText,
      exponentText, size]
  · have nonneg : 0 ≤ n := not_lt.mp negative
    have size : n.natAbs = n.toNat := by omega
    simp [NumberLiteral.text, intLiteral, negative, nonneg, Whole.ofNat, Digits.ofNat, fractionText,
      exponentText, size]

theorem json_intLiteral (n : ℤ) : (intLiteral n).json = .int n := by
  have size : (Whole.ofNat n.natAbs).value = n.natAbs := value_ofNat _
  simp only [NumberLiteral.json, NumberLiteral.isInteger, intLiteral, Option.isNone_none,
    Bool.and_self, if_true, NumberLiteral.integer, size, decide_eq_true_eq]
  congr 1
  split <;> omega

theorem json_floatLiteral {x : ℚ} (float : (Flt.fin x).IsFloat) :
    (floatLiteral x).json = .float (.fin x) := by
  rw [NumberLiteral.json, isInteger_floatLiteral, if_neg Bool.false_ne_true, float_floatLiteral float]

theorem head_literal (l : NumberLiteral) (rest : Str) : ∃ c s, c.isDigit = true ∧
    (l.text ++ rest = c :: s ∨ l.text ++ rest = '-' :: c :: s) := by
  obtain ⟨c, s, same, digit⟩ := head_digits_append l.whole.toDigits
    (fractionText l.fraction ++ (exponentText l.exponent ++ rest))
  refine ⟨c, s, digit, ?_⟩
  rw [NumberLiteral.text]
  cases l.negative with
  | false => simp [same]
  | true => simp [same]

theorem isDigit_ne {c : Char} (digit : c.isDigit = true) {d : Char} (other : d.isDigit = false) :
    c ≠ d := by
  rintro rfl
  rw [digit] at other
  cases other

theorem readWord_literal (l : NumberLiteral) (rest : Str) : readWord (l.text ++ rest) = none := by
  obtain ⟨c, s, digit, same | same⟩ := head_literal l rest
  · have apart : ∀ d ∈ ['n', 't', 'f', 'N', 'I', '-'], d ≠ c := by
      intro d member
      have letters : ['n', 't', 'f', 'N', 'I', '-'].all (fun d => !d.isDigit) = true := rfl
      have other : d.isDigit = false := by simpa using List.all_eq_true.mp letters d member
      exact (isDigit_ne digit other).symm
    simp only [List.forall_mem_cons] at apart
    obtain ⟨n, t, f, nan, infinity, minus, -⟩ := apart
    rw [same]
    simp [readWord, jsonWords, n, t, f, nan, infinity, minus]
  · have infinity : 'I' ≠ c := (isDigit_ne digit rfl).symm
    rw [same]
    simp [readWord, jsonWords, infinity]

theorem readValue_literal (l : NumberLiteral) {rest : Str} (ends : Delimited rest) (fuel : Nat) :
    readValue (fuel + 1) (l.text ++ rest) = some (l.json, rest) := by
  have number : readNumber (l.text ++ rest) = some (l.json, rest) := by
    rw [readNumber, readLiteral_append l ends]
    rfl
  have word := readWord_literal l rest
  obtain ⟨c, s, digit, same | same⟩ := head_literal l rest
  · have quote : c ≠ '"' := isDigit_ne digit rfl
    have brace : c ≠ '\x7b' := isDigit_ne digit rfl
    have bracket : c ≠ '[' := isDigit_ne digit rfl
    rw [same] at number word ⊢
    simp only [readValue, quote, brace, bracket, if_false, word, number]
  · rw [same] at number word ⊢
    have quote : '-' ≠ '"' := by decide
    have brace : '-' ≠ '\x7b' := by decide
    have bracket : '-' ≠ '[' := by decide
    simp only [readValue, quote, brace, bracket, if_false, word, number]

/-! ## Reading values back -/

mutual

/-- The floats are doubles, and no object has a key twice. -/
def Json.IsValue : Json → Prop
  | .float x => x.IsFloat
  | .arr items => Json.AreValues items
  | .obj fields => (fields.map Prod.fst).Nodup ∧ Json.AreFieldValues fields
  | _ => True

def Json.AreValues : List Json → Prop
  | [] => True
  | item :: items => item.IsValue ∧ Json.AreValues items

def Json.AreFieldValues : List (Str × Json) → Prop
  | [] => True
  | field :: fields => field.2.IsValue ∧ Json.AreFieldValues fields

end

theorem areFieldValues_iff {fields : Fields} :
    Json.AreFieldValues fields ↔ ∀ field ∈ fields, field.2.IsValue := by
  induction fields with
  | nil => simp [Json.AreFieldValues]
  | cons field fields inductionHypothesis =>
    rw [Json.AreFieldValues, inductionHypothesis, List.forall_mem_cons]

theorem skipSpace_cons {c : Char} (other : isJsonSpace c = false) (s : Str) :
    skipSpace (c :: s) = c :: s := by
  simp [skipSpace, other]

/-- A value begins with a character that is neither space nor a bracket that closes. -/
theorem head_dumps (value : Json) (rest : Str) : ∃ c s, dumps floatText value ++ rest = c :: s ∧
    isJsonSpace c = false ∧ c ≠ ']' := by
  have literal : ∀ l : NumberLiteral, ∃ c s, l.text ++ rest = c :: s ∧ isJsonSpace c = false ∧
      c ≠ ']' := by
    intro l
    obtain ⟨c, s, digit, same | same⟩ := head_literal l rest
    · refine ⟨c, s, same, ?_, isDigit_ne digit rfl⟩
      simp [isJsonSpace, isDigit_ne digit]
    · exact ⟨'-', c :: s, same, rfl, by decide⟩
  cases value with
  | null => exact ⟨'n', _, rfl, rfl, by decide⟩
  | bool b =>
    cases b
    · exact ⟨'f', _, rfl, rfl, by decide⟩
    · exact ⟨'t', _, rfl, rfl, by decide⟩
  | int n =>
    rw [dumps, ← text_intLiteral]
    exact literal _
  | float x =>
    rw [dumps]
    cases x with
    | fin x => exact literal _
    | inf negative =>
      cases negative
      · exact ⟨'I', _, rfl, rfl, by decide⟩
      · exact ⟨'-', _, rfl, rfl, by decide⟩
    | nan => exact ⟨'N', _, rfl, rfl, by decide⟩
  | str s => exact ⟨'"', _, rfl, rfl, by decide⟩
  | arr items => exact ⟨'[', _, rfl, rfl, by decide⟩
  | obj fields => exact ⟨'\x7b', _, rfl, rfl, by decide⟩

theorem set_append {fields : Fields} {key : Str} (value : Json)
    (absent : key ∉ fields.map Prod.fst) : fields.set key value = fields ++ [(key, value)] := by
  have none : fields.has key = false := by
    rw [Fields.has, Fields.get?_of_not_mem absent]
    rfl
  rw [Fields.set, none, if_neg Bool.false_ne_true]

theorem head_dumpsItems {items : List Json} (some : items ≠ []) (rest : Str) :
    ∃ c s, dumpsItems floatText items ++ rest = c :: s ∧ isJsonSpace c = false ∧ c ≠ ']' := by
  cases items with
  | nil => exact absurd rfl some
  | cons item items =>
    rw [dumpsItems, List.append_assoc]
    exact head_dumps item _

theorem skipSpace_dumpsItems {items : List Json} (some : items ≠ []) (rest : Str) :
    skipSpace (dumpsItems floatText items ++ rest) = dumpsItems floatText items ++ rest := by
  obtain ⟨c, s, same, space, -⟩ := head_dumpsItems some rest
  rw [same, skipSpace_cons space]

theorem dumpsFields_cons (field : Str × Json) (fields : Fields) (rest : Str) :
    dumpsFields floatText (field :: fields) ++ rest =
      '"' :: (field.1.flatMap escapeChar ++ '"' :: ':' :: ' ' :: (dumps floatText field.2 ++
        (dumpsOtherFields floatText fields ++ rest))) := by
  simp [dumpsFields, dumpsString]

theorem skipSpace_space (s : Str) : skipSpace (' ' :: s) = skipSpace s := rfl

mutual

theorem readValue_dumps (value : Json) (is : value.IsValue) {fuel : Nat}
    (enough : (dumps floatText value).length < fuel) {rest : Str} (ends : Delimited rest) :
    readValue fuel (dumps floatText value ++ rest) = some (value, rest) := by
  cases fuel with
  | zero => simp at enough
  | succ fuel =>
    cases value with
    | null => rfl
    | bool b => cases b <;> rfl
    | int n =>
      have read := readValue_literal (intLiteral n) ends fuel
      rwa [json_intLiteral, text_intLiteral] at read
    | float x =>
      cases x with
      | fin x =>
        have read := readValue_literal (floatLiteral x) ends fuel
        rwa [json_floatLiteral is] at read
      | inf negative => cases negative <;> rfl
      | nan => rfl
    | str s =>
      have text : dumps floatText (.str s) ++ rest = '"' :: (s.flatMap escapeChar ++ '"' :: rest) := by
        simp [dumps, dumpsString]
      rw [text]
      simp only [readValue, if_true, readString_append, Option.map_some]
    | arr items =>
      have text : dumps floatText (.arr items) ++ rest =
          '[' :: (dumpsItems floatText items ++ ']' :: rest) := by
        simp [dumps]
      have bracket : '[' ≠ '"' ∧ '[' ≠ '\x7b' := by decide
      rw [text]
      by_cases empty : items = []
      · subst empty
        rfl
      · have inner : (dumpsItems floatText items).length + 1 < fuel := by
          simp [dumps] at enough
          omega
        obtain ⟨c, s, same, space, other⟩ := head_dumpsItems empty (']' :: rest)
        have read := readItems_dumps items is empty inner rest
        simp only [readValue, bracket, if_false, if_true, skipSpace_dumpsItems empty]
        rw [same] at read ⊢
        split
        · next closed => exact absurd (List.cons.inj closed).1 other
        · rw [read]
          rfl
    | obj fields =>
      have text : dumps floatText (.obj fields) ++ rest =
          '\x7b' :: (dumpsFields floatText fields ++ '\x7d' :: rest) := by
        simp [dumps]
      rw [text]
      cases fields with
      | nil => rfl
      | cons field fields =>
        have inner : (dumpsFields floatText (field :: fields)).length + 1 < fuel := by
          simp [dumps] at enough
          omega
        have read := readMembers_dumps (field :: fields) is.2 (List.cons_ne_nil _ _) []
          (by simpa using is.1) inner rest
        have quote : isJsonSpace '"' = false := rfl
        have brace : '\x7b' ≠ '"' := by decide
        rw [dumpsFields_cons] at read ⊢
        simp only [readValue, brace, if_false, if_true, skipSpace_cons quote]
        split
        · next closed => exact absurd (List.cons.inj closed).1 (by decide)
        · rw [read]
          rfl

theorem readItems_dumps (items : List Json) (are : Json.AreValues items) (some : items ≠ [])
    {fuel : Nat} (enough : (dumpsItems floatText items).length + 1 < fuel) (rest : Str) :
    readItems fuel (dumpsItems floatText items ++ ']' :: rest) = .some (items, rest) := by
  cases items with
  | nil => exact absurd rfl some
  | cons item items =>
    cases fuel with
    | zero => simp at enough
    | succ fuel =>
      rw [dumpsItems, List.length_append] at enough
      have ends : Delimited (dumpsOtherItems floatText items ++ ']' :: rest) := by
        cases items <;> exact delimited_cons (by decide)
      have read : readValue fuel (dumps floatText item ++
          (dumpsOtherItems floatText items ++ ']' :: rest)) = .some (item, _) :=
        readValue_dumps item are.1 (by omega) ends
      rw [dumpsItems, List.append_assoc, readItems, read]
      cases items with
      | nil => rfl
      | cons next items =>
        have others : dumpsOtherItems floatText (next :: items) ++ ']' :: rest =
            ',' :: ' ' :: (dumpsItems floatText (next :: items) ++ ']' :: rest) := rfl
        have more : next :: items ≠ [] := List.cons_ne_nil _ _
        have shorter : (dumpsItems floatText (next :: items)).length + 1 < fuel := by
          simp only [dumpsOtherItems, dumpsItems, List.length_cons] at enough ⊢
          omega
        have tail := readItems_dumps (next :: items) are.2 more shorter rest
        simp only [others, skipSpace_cons (show isJsonSpace ',' = false from rfl), skipSpace_space,
          skipSpace_dumpsItems more, tail, Option.map_some]

theorem readMembers_dumps (fields : Fields) (are : Json.AreFieldValues fields) (some : fields ≠ [])
    (before : Fields) (distinct : ((before ++ fields).map Prod.fst).Nodup) {fuel : Nat}
    (enough : (dumpsFields floatText fields).length + 1 < fuel) (rest : Str) :
    readMembers fuel before (dumpsFields floatText fields ++ '\x7d' :: rest) =
      .some (before ++ fields, rest) := by
  cases fields with
  | nil => exact absurd rfl some
  | cons field fields =>
    cases fuel with
    | zero => simp at enough
    | succ fuel =>
      obtain ⟨key, value⟩ := field
      have length : (dumps floatText value).length + (dumpsOtherFields floatText fields).length + 4 <
          fuel + 1 := by
        simp only [dumpsFields, dumpsString, List.length_append, List.length_cons] at enough
        omega
      have ends : Delimited (dumpsOtherFields floatText fields ++ '\x7d' :: rest) := by
        cases fields <;> exact delimited_cons (by decide)
      have read : readValue fuel (dumps floatText value ++
          (dumpsOtherFields floatText fields ++ '\x7d' :: rest)) = .some (value, _) :=
        readValue_dumps value are.1 (by omega) ends
      obtain ⟨c, s, same, space, -⟩ := head_dumps value
        (dumpsOtherFields floatText fields ++ '\x7d' :: rest)
      have absent : key ∉ before.map Prod.fst := by
        rw [List.map_append, List.nodup_append] at distinct
        exact fun member => distinct.2.2 key member key List.mem_cons_self rfl
      have colon : isJsonSpace ':' = false := rfl
      rw [same] at read
      rw [dumpsFields_cons, readMembers, readString_append]
      simp only [skipSpace_cons colon, skipSpace_space, same, skipSpace_cons space, read,
        set_append value absent]
      cases fields with
      | nil => rfl
      | cons next fields =>
        have others : dumpsOtherFields floatText (next :: fields) ++ '\x7d' :: rest =
            ',' :: ' ' :: (dumpsFields floatText (next :: fields) ++ '\x7d' :: rest) := rfl
        have shorter : (dumpsFields floatText (next :: fields)).length + 1 < fuel := by
          simp only [dumpsOtherFields, dumpsFields, List.length_cons] at length ⊢
          omega
        have tail := readMembers_dumps (next :: fields) are.2 (List.cons_ne_nil _ _)
          (before ++ [(key, value)]) (by simpa using distinct) shorter rest
        have comma : isJsonSpace ',' = false := rfl
        have quote : isJsonSpace '"' = false := rfl
        rw [dumpsFields_cons] at others tail
        simp only [others, skipSpace_cons comma, skipSpace_space, skipSpace_cons quote, tail]
        simp

end

/-- `json.loads` reads what `json.dumps` wrote, with space behind it or not. -/
theorem loads_dumps {value : Json} (is : value.IsValue) {space : Str}
    (blank : ∀ c ∈ space, isJsonSpace c = true) : loads (dumps floatText value ++ space) = some value := by
  have ends : Delimited space := by
    intro c head
    have white := blank c (List.mem_of_mem_head? head)
    simp only [isJsonSpace, Bool.or_eq_true, decide_eq_true_eq] at white
    obtain ((rfl | rfl) | rfl) | rfl := white <;> decide
  obtain ⟨c, s, same, first, -⟩ := head_dumps value space
  have enough : (dumps floatText value).length < (dumps floatText value ++ space).length + 1 := by
    rw [List.length_append]
    omega
  have read := readValue_dumps value is enough ends
  have rest : skipSpace space = [] := List.dropWhile_eq_nil_iff.mpr blank
  rw [same] at read
  simp only [loads, same, skipSpace_cons first, read, rest, if_true]

end BurnLens.Library
