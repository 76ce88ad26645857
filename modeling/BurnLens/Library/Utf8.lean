import BurnLens.Library.Text

/-! # UTF-8

Encoding, and decoding one piece of bytes at a time with malformed bytes ignored.
-/

namespace BurnLens.Library

/-- `s.encode("utf-8")`. -/
def utf8 (s : Str) : List UInt8 := s.flatMap String.utf8EncodeChar

def firstChar (bytes : List UInt8) : Option Char := bytes.toByteArray.utf8DecodeChar? 0

/-- A byte that begins no character is ignored; `fuel` bounds the number of bytes. -/
def decodeFrom : Nat → List UInt8 → Str
  | 0, _ => []
  | _, [] => []
  | fuel + 1, byte :: bytes =>
    match firstChar (byte :: bytes) with
    | some c => c :: decodeFrom fuel ((byte :: bytes).drop c.utf8Size)
    | none => decodeFrom fuel bytes

/-- `bytes.decode("utf-8", errors="ignore")`. -/
def decodeIgnore (bytes : List UInt8) : Str := decodeFrom bytes.length bytes

/-- `bytes.decode("utf-8")`, where it does not raise. -/
def decodeStrict (bytes : List UInt8) : Option Str :=
  let text := decodeIgnore bytes
  if utf8 text = bytes then some text else none

/-- What may be left of a text that is decoded piece by piece: a character of several bytes is lost
    where it is cut. -/
def arrivals : Str → List Str
  | [] => [[]]
  | c :: s =>
    if c.utf8Size = 1 then (arrivals s).map (c :: ·)
    else (arrivals s).map (c :: ·) ++ arrivals s

/-! ## Bytes of characters -/

@[simp] theorem utf8_nil : utf8 [] = [] := rfl

theorem utf8_cons (c : Char) (s : Str) : utf8 (c :: s) = String.utf8EncodeChar c ++ utf8 s := rfl

theorem utf8_append (s t : Str) : utf8 (s ++ t) = utf8 s ++ utf8 t := List.flatMap_append

theorem firstChar_append (c : Char) (rest : List UInt8) :
    firstChar (String.utf8EncodeChar c ++ rest) = some c := by
  rw [firstChar, List.toByteArray_append]
  exact ByteArray.utf8DecodeChar?_utf8EncodeChar_append

theorem firstChar_of_not_first {byte : UInt8} (inner : ¬ byte.IsUTF8FirstByte) (bytes : List UInt8) :
    firstChar (byte :: bytes) = none := by
  rw [← Option.not_isSome_iff_eq_none]
  intro decoded
  have first := ByteArray.isUTF8FirstByte_of_isSome_utf8DecodeChar? decoded
  rw [List.getElem_toByteArray] at first
  exact inner first

theorem firstChar_of_cut {c : Char} {cut tail : List UInt8}
    (split : String.utf8EncodeChar c = cut ++ tail) (missing : tail ≠ []) : firstChar cut = none := by
  cases decoded : firstChar cut with
  | none => rfl
  | some d =>
    have whole : firstChar (cut ++ tail) = some d := by
      rw [firstChar, List.toByteArray_append]
      exact ByteArray.utf8DecodeChar?_append_eq_some decoded _
    have same := firstChar_append c []
    rw [List.append_nil, split, whole] at same
    cases same
    have enough := ByteArray.le_size_of_utf8DecodeChar?_eq_some decoded
    have length := congrArg List.length split
    have positive := List.length_pos_iff.mpr missing
    simp only [String.length_utf8EncodeChar, List.length_append, List.size_toByteArray] at enough length
    omega

theorem not_first_of_mem_tail {c : Char} {cut tail : List UInt8}
    (split : String.utf8EncodeChar c = cut ++ tail) (cuts : cut ≠ []) :
    ∀ byte ∈ tail, ¬ byte.IsUTF8FirstByte := by
  intro byte member first
  obtain ⟨i, bound, rfl⟩ := List.getElem_of_mem member
  have inside : cut.length + i < (String.utf8EncodeChar c).length := by
    rw [split, List.length_append]
    omega
  have same : (String.utf8EncodeChar c)[cut.length + i] = tail[i] := by
    simp only [split, List.getElem_append_right (Nat.le_add_right _ _), Nat.add_sub_cancel_left]
  rw [← same, UInt8.isUTF8FirstByte_getElem_utf8EncodeChar] at first
  have positive := List.length_pos_iff.mpr cuts
  omega

/-- A byte that is a character by itself is in the encoding of no other one. -/
theorem eq_of_mem_utf8EncodeChar {a c : Char} {byte : UInt8}
    (single : String.utf8EncodeChar a = [byte]) (member : byte ∈ String.utf8EncodeChar c) : c = a := by
  have first : byte.IsUTF8FirstByte := by
    have zero := @UInt8.isUTF8FirstByte_getElem_zero_utf8EncodeChar a
    simpa only [single, List.getElem_cons_zero] using zero
  obtain ⟨i, bound, here⟩ := List.getElem_of_mem member
  rw [← here, UInt8.isUTF8FirstByte_getElem_utf8EncodeChar] at first
  cases encoded : String.utf8EncodeChar c with
  | nil => exact absurd encoded String.utf8EncodeChar_ne_nil
  | cons head tail =>
    have same : head = byte := by simpa [encoded, first] using here
    have whole := firstChar_append c []
    have alone := firstChar_append a tail
    rw [encoded, same, List.append_nil] at whole
    rw [single, List.singleton_append, whole] at alone
    exact Option.some.inj alone

/-! ## Decoding -/

theorem decodeFrom_eq {fuel : Nat} {bytes : List UInt8} (enough : bytes.length ≤ fuel) :
    decodeFrom fuel bytes = decodeIgnore bytes := by
  have same : ∀ fuel bytes, bytes.length ≤ fuel → ∀ more,
      decodeFrom (fuel + more) bytes = decodeFrom fuel bytes := by
    intro fuel
    induction fuel with
    | zero =>
      intro bytes enough more
      rw [List.length_eq_zero_iff.mp (Nat.le_zero.mp enough)]
      cases more <;> rfl
    | succ fuel inductionHypothesis =>
      intro bytes enough more
      rw [Nat.add_right_comm]
      cases bytes with
      | nil => rfl
      | cons byte bytes =>
        rw [List.length_cons] at enough
        simp only [decodeFrom]
        cases firstChar (byte :: bytes) with
        | none => exact inductionHypothesis _ (by omega) more
        | some c =>
          have positive := c.utf8Size_pos
          refine congrArg (c :: ·) (inductionHypothesis _ ?_ more)
          rw [List.length_drop, List.length_cons]
          omega
  obtain ⟨more, rfl⟩ := Nat.exists_eq_add_of_le enough
  exact same _ _ le_rfl more

theorem decodeIgnore_cons (byte : UInt8) (bytes : List UInt8) :
    decodeIgnore (byte :: bytes) =
      match firstChar (byte :: bytes) with
      | some c => c :: decodeIgnore ((byte :: bytes).drop c.utf8Size)
      | none => decodeIgnore bytes := by
  rw [decodeIgnore, List.length_cons, decodeFrom]
  cases firstChar (byte :: bytes) with
  | none => rfl
  | some c =>
    have positive := c.utf8Size_pos
    refine congrArg (c :: ·) (decodeFrom_eq ?_)
    rw [List.length_drop, List.length_cons]
    omega

theorem decodeIgnore_char_append (c : Char) (rest : List UInt8) :
    decodeIgnore (String.utf8EncodeChar c ++ rest) = c :: decodeIgnore rest := by
  have read := firstChar_append c rest
  have behind : (String.utf8EncodeChar c ++ rest).drop c.utf8Size = rest := by
    rw [← String.length_utf8EncodeChar, List.drop_left]
  cases bytes : String.utf8EncodeChar c ++ rest with
  | nil =>
    have positive := c.utf8Size_pos
    rw [← String.length_utf8EncodeChar, (List.append_eq_nil_iff.mp bytes).1] at positive
    cases positive
  | cons byte others =>
    rw [bytes] at read behind
    rw [decodeIgnore_cons, read]
    exact congrArg (c :: decodeIgnore ·) behind

theorem decodeIgnore_append (s : Str) (rest : List UInt8) :
    decodeIgnore (utf8 s ++ rest) = s ++ decodeIgnore rest := by
  induction s with
  | nil => rfl
  | cons c s inductionHypothesis =>
    rw [utf8_cons, List.append_assoc, decodeIgnore_char_append, inductionHypothesis, List.cons_append]

theorem decodeIgnore_utf8 (s : Str) : decodeIgnore (utf8 s) = s := by
  have whole := decodeIgnore_append s []
  rw [List.append_nil] at whole
  exact whole.trans (List.append_nil s)

theorem utf8_prefix_iff {key s : Str} : utf8 key <+: utf8 s ↔ key <+: s := by
  constructor
  · rintro ⟨rest, whole⟩
    have decoded := decodeIgnore_append key rest
    rw [whole, decodeIgnore_utf8] at decoded
    exact ⟨_, decoded.symm⟩
  · rintro ⟨rest, rfl⟩
    exact ⟨utf8 rest, (utf8_append key rest).symm⟩

theorem decodeIgnore_tail_append {tail : List UInt8} (inner : ∀ byte ∈ tail, ¬ byte.IsUTF8FirstByte)
    (rest : List UInt8) : decodeIgnore (tail ++ rest) = decodeIgnore rest := by
  induction tail with
  | nil => rfl
  | cons byte tail inductionHypothesis =>
    rw [List.forall_mem_cons] at inner
    rw [List.cons_append, decodeIgnore_cons, firstChar_of_not_first inner.1]
    exact inductionHypothesis inner.2

theorem decodeIgnore_tail {tail : List UInt8} (inner : ∀ byte ∈ tail, ¬ byte.IsUTF8FirstByte) :
    decodeIgnore tail = [] := by
  have whole := decodeIgnore_tail_append inner []
  rwa [List.append_nil] at whole

theorem decodeIgnore_cut {c : Char} {cut tail : List UInt8}
    (split : String.utf8EncodeChar c = cut ++ tail) (missing : tail ≠ []) : decodeIgnore cut = [] := by
  cases cut with
  | nil => rfl
  | cons byte cut =>
    rw [decodeIgnore_cons, firstChar_of_cut split missing]
    have first : String.utf8EncodeChar c = [byte] ++ (cut ++ tail) := split
    have inner := not_first_of_mem_tail first (List.cons_ne_nil _ _)
    exact decodeIgnore_tail fun other member => inner other (List.mem_append_left _ member)

/-- A cut of the bytes of a text lies between two characters or in one. -/
theorem utf8_cut {text : Str} {front back : List UInt8} (split : utf8 text = front ++ back) :
    ∃ part rest, (text = part ++ rest ∧ front = utf8 part ∧ back = utf8 rest) ∨
      ∃ c cut tail, text = part ++ c :: rest ∧ String.utf8EncodeChar c = cut ++ tail ∧ cut ≠ [] ∧
        tail ≠ [] ∧ front = utf8 part ++ cut ∧ back = tail ++ utf8 rest := by
  induction text generalizing front with
  | nil =>
    obtain ⟨rfl, rfl⟩ := List.nil_eq_append_iff.mp split
    exact ⟨[], [], .inl ⟨rfl, rfl, rfl⟩⟩
  | cons c text inductionHypothesis =>
    rw [utf8_cons] at split
    obtain ⟨more, rfl, behind⟩ | ⟨tail, whole, rfl⟩ := List.append_eq_append_iff.mp split
    · obtain ⟨part, rest, ⟨rfl, rfl, rfl⟩ | ⟨d, cut, tail, rfl, found⟩⟩ := inductionHypothesis behind
      · exact ⟨c :: part, rest, .inl ⟨rfl, rfl, rfl⟩⟩
      · obtain ⟨encoded, cuts, missing, rfl, rfl⟩ := found
        exact ⟨c :: part, rest, .inr ⟨d, cut, tail, rfl, encoded, cuts, missing,
          (List.append_assoc _ _ _).symm, rfl⟩⟩
    · by_cases start : front = []
      · subst start
        rw [List.nil_append] at whole
        exact ⟨[], c :: text, .inl ⟨rfl, rfl, by rw [utf8_cons, whole]⟩⟩
      · by_cases ending : tail = []
        · subst ending
          rw [List.append_nil] at whole
          exact ⟨[c], text, .inl ⟨rfl, by rw [utf8_cons, utf8_nil, List.append_nil, whole], rfl⟩⟩
        · exact ⟨[], text, .inr ⟨c, front, tail, rfl, whole, start, ending, rfl, rfl⟩⟩

/-! ## What arrives -/

@[simp] theorem mem_arrivals_nil {arrived : Str} : arrived ∈ arrivals [] ↔ arrived = [] := by
  simp [arrivals]

theorem mem_arrivals_cons {c : Char} {s arrived : Str} :
    arrived ∈ arrivals (c :: s) ↔
      (∃ rest ∈ arrivals s, arrived = c :: rest) ∨ (c.utf8Size ≠ 1 ∧ arrived ∈ arrivals s) := by
  rw [arrivals]
  split
  · next single => simp [single, eq_comm]
  · next several => simp [several, eq_comm]

theorem mem_arrivals_self (s : Str) : s ∈ arrivals s := by
  induction s with
  | nil => exact mem_arrivals_nil.mpr rfl
  | cons c s inductionHypothesis => exact mem_arrivals_cons.mpr (.inl ⟨s, inductionHypothesis, rfl⟩)

theorem mem_arrivals_append {s t arrived : Str} :
    arrived ∈ arrivals (s ++ t) ↔
      ∃ front ∈ arrivals s, ∃ back ∈ arrivals t, arrived = front ++ back := by
  induction s generalizing arrived with
  | nil => simp
  | cons c s inductionHypothesis =>
    simp only [List.cons_append, mem_arrivals_cons, inductionHypothesis]
    constructor
    · rintro (⟨rest, ⟨front, left, back, right, rfl⟩, rfl⟩ | ⟨several, front, left, back, right, rfl⟩)
      · exact ⟨c :: front, .inl ⟨front, left, rfl⟩, back, right, rfl⟩
      · exact ⟨front, .inr ⟨several, left⟩, back, right, rfl⟩
    · rintro ⟨front, ⟨rest, left, rfl⟩ | ⟨several, left⟩, back, right, rfl⟩
      · exact .inl ⟨rest ++ back, ⟨rest, left, back, right, rfl⟩, rfl⟩
      · exact .inr ⟨several, front, left, back, right, rfl⟩

/-- However the bytes of a text are cut, what is decoded has lost cut characters only. -/
theorem decodeIgnore_pieces {pieces : List (List UInt8)} {tail : List UInt8} {text : Str}
    (inner : ∀ byte ∈ tail, ¬ byte.IsUTF8FirstByte) (split : pieces.flatten = tail ++ utf8 text) :
    (pieces.map decodeIgnore).flatten ∈ arrivals text := by
  induction pieces generalizing tail text with
  | nil =>
    have none := (List.nil_eq_append_iff.mp split).2
    cases text with
    | nil => exact mem_arrivals_nil.mpr rfl
    | cons c text =>
      have decoded := decodeIgnore_utf8 (c :: text)
      rw [none] at decoded
      cases decoded
  | cons piece pieces inductionHypothesis =>
    rw [List.flatten_cons] at split
    rw [List.map_cons, List.flatten_cons]
    obtain ⟨more, rfl, behind⟩ | ⟨front, rfl, behind⟩ := List.append_eq_append_iff.mp split
    · -- the piece ends inside the character that the bytes in front of the text belong to
      rw [decodeIgnore_tail fun byte member => inner byte (List.mem_append_left _ member)]
      exact inductionHypothesis (fun byte member => inner byte (List.mem_append_right _ member)) behind
    · rw [decodeIgnore_tail_append inner]
      obtain ⟨part, rest, ⟨rfl, rfl, others⟩ | ⟨c, cut, tail, rfl, found⟩⟩ := utf8_cut behind
      · have later := inductionHypothesis (List.forall_mem_nil _)
          (others.trans (List.nil_append _).symm)
        rw [decodeIgnore_utf8]
        exact mem_arrivals_append.mpr ⟨part, mem_arrivals_self part, _, later, rfl⟩
      · obtain ⟨encoded, cuts, missing, rfl, rest⟩ := found
        rw [decodeIgnore_append, decodeIgnore_cut encoded missing, List.append_nil]
        have several : c.utf8Size ≠ 1 := by
          have left := List.length_pos_iff.mpr cuts
          have right := List.length_pos_iff.mpr missing
          rw [← String.length_utf8EncodeChar, encoded, List.length_append]
          omega
        exact mem_arrivals_append.mpr ⟨part, mem_arrivals_self part, _,
          mem_arrivals_cons.mpr (.inr ⟨several,
            inductionHypothesis (not_first_of_mem_tail encoded cuts) rest⟩), rfl⟩

/-- Whatever characters of several bytes a text may lose, some cut loses them. -/
theorem exists_pieces_of_mem_arrivals {text arrived : Str} (arrives : arrived ∈ arrivals text) :
    ∃ pieces : List (List UInt8), pieces.flatten = utf8 text ∧
      (pieces.map decodeIgnore).flatten = arrived := by
  induction text generalizing arrived with
  | nil => exact ⟨[], rfl, (mem_arrivals_nil.mp arrives).symm⟩
  | cons c text inductionHypothesis =>
    obtain ⟨rest, left, rfl⟩ | ⟨several, left⟩ := mem_arrivals_cons.mp arrives
    · obtain ⟨pieces, split, decoded⟩ := inductionHypothesis left
      have kept := decodeIgnore_char_append c []
      rw [List.append_nil] at kept
      refine ⟨String.utf8EncodeChar c :: pieces, by rw [List.flatten_cons, split, utf8_cons], ?_⟩
      rw [List.map_cons, List.flatten_cons, decoded, kept]
      rfl
    · obtain ⟨pieces, split, decoded⟩ := inductionHypothesis left
      -- the character is cut behind its first byte
      cases encoded : String.utf8EncodeChar c with
      | nil => exact absurd encoded String.utf8EncodeChar_ne_nil
      | cons byte tail =>
        have whole : String.utf8EncodeChar c = [byte] ++ tail := encoded
        have missing : tail ≠ [] := by
          rintro rfl
          apply several
          rw [← String.length_utf8EncodeChar, encoded, List.length_singleton]
        refine ⟨[byte] :: tail :: pieces, ?_, ?_⟩
        · rw [List.flatten_cons, List.flatten_cons, split, utf8_cons, whole, List.append_assoc]
        · rw [List.map_cons, List.map_cons, List.flatten_cons, List.flatten_cons, decoded,
            decodeIgnore_cut whole missing,
            decodeIgnore_tail (not_first_of_mem_tail whole (List.cons_ne_nil _ _))]
          rfl

/-- A character that is cut in two is dropped. -/
example : decodeIgnore [0x61, 0xC3] ++ decodeIgnore [0xA9, 0x62] = ['a', 'b'] := by decide

end BurnLens.Library
