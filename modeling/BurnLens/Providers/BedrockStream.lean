import BurnLens.Library.Json
import BurnLens.Library.JsonGrammar
import BurnLens.Proxy.Streaming

/-! # The usage in a Bedrock stream

The payloads are plain JSON between binary frames.  `_scan_json_object` tells where an object ends from
its braces and strings alone, which is where the grammar ends it; what is cut off is not taken.
-/

namespace BurnLens.Providers

open Library Ascii

structure ScanState where
  depth : Int := 0
  inStr : Bool := false
  esc : Bool := false

/-- The loop over the bytes from `i` on: where the slice that it returns ends. -/
def scanLoop : Bytes → (i : Nat) → ScanState → Option Nat
  -- truncated
  | [], _, _ => none
  | c :: rest, i, s =>
    if s.inStr then
      if s.esc then scanLoop rest (i + 1) { s with esc := false }
      else if c = backslash then scanLoop rest (i + 1) { s with esc := true }
      else if c = quote then scanLoop rest (i + 1) { s with inStr := false }
      else scanLoop rest (i + 1) s
    else if c = quote then scanLoop rest (i + 1) { s with inStr := true }
    else if c = openBrace then scanLoop rest (i + 1) { s with depth := s.depth + 1 }
    else if c = closeBrace then
      if s.depth - 1 = 0 then some (i + 1)
      else scanLoop rest (i + 1) { s with depth := s.depth - 1 }
    else scanLoop rest (i + 1) s

theorem scanLoop_cons (c : UInt8) (rest : Bytes) (i : Nat) (s : ScanState) :
    scanLoop (c :: rest) i s =
      if s.inStr then
        if s.esc then scanLoop rest (i + 1) { s with esc := false }
        else if c = backslash then scanLoop rest (i + 1) { s with esc := true }
        else if c = quote then scanLoop rest (i + 1) { s with inStr := false }
        else scanLoop rest (i + 1) s
      else if c = quote then scanLoop rest (i + 1) { s with inStr := true }
      else if c = openBrace then scanLoop rest (i + 1) { s with depth := s.depth + 1 }
      else if c = closeBrace then
        if s.depth - 1 = 0 then some (i + 1)
        else scanLoop rest (i + 1) { s with depth := s.depth - 1 }
      else scanLoop rest (i + 1) s := rfl

def scanJsonObject (buf : Bytes) (start : Int) : Option Bytes :=
  if start < 0 ∨ buf.length ≤ start ∨ buf[start.toNat]? ≠ some openBrace then none
  else (scanLoop (buf.drop start.toNat) start.toNat {}).map fun stop =>
    (buf.take stop).drop start.toNat

/-! ## Passing over bytes -/

/-- The scan goes over these bytes from one state to another, and does not end. -/
def Passes (s : ScanState) (bytes : Bytes) (s' : ScanState) : Prop :=
  ∀ rest i, scanLoop (bytes ++ rest) i s = scanLoop rest (i + bytes.length) s'

def outside (depth : Int) : ScanState := { depth }

def inside (depth : Int) : ScanState := { depth, inStr := true }

section

variable {s s' s'' : ScanState} {front back : Bytes} {depth : Int}

theorem Passes.nil : Passes s [] s := fun _ _ => rfl

theorem Passes.append (first : Passes s front s') (second : Passes s' back s'') :
    Passes s (front ++ back) s'' := by
  intro rest i
  rw [List.append_assoc, first, second, List.length_append, Nat.add_assoc]

theorem Passes.cons {byte : UInt8} (first : Passes s [byte] s') (second : Passes s' back s'') :
    Passes s (byte :: back) s'' := first.append second

theorem passes_quiet {byte : UInt8} (quiet : Quiet byte) :
    Passes (outside depth) [byte] (outside depth) := by
  intro rest i
  obtain ⟨notQuote, notOpen, notClose⟩ := quiet
  simp [scanLoop_cons, outside, notQuote, notOpen, notClose]

theorem passes_all_quiet {bytes : Bytes} (quiet : ∀ byte ∈ bytes, Quiet byte) :
    Passes (outside depth) bytes (outside depth) := by
  induction bytes with
  | nil => exact .nil
  | cons byte bytes inductionHypothesis =>
    obtain ⟨first, others⟩ := List.forall_mem_cons.mp quiet
    exact (passes_quiet first).cons (inductionHypothesis others)

theorem passes_openQuote : Passes (outside depth) [quote] (inside depth) := by
  intro rest i
  simp [scanLoop_cons, outside, inside]

theorem passes_closeQuote : Passes (inside depth) [quote] (outside depth) := by
  intro rest i
  have apart : quote ≠ backslash := by decide
  simp [scanLoop_cons, outside, inside, apart]

theorem passes_plain {byte : UInt8} (notQuote : byte ≠ quote) (notBackslash : byte ≠ backslash) :
    Passes (inside depth) [byte] (inside depth) := by
  intro rest i
  simp [scanLoop_cons, inside, notQuote, notBackslash]

theorem passes_escape (byte : UInt8) : Passes (inside depth) [backslash, byte] (inside depth) := by
  intro rest i
  simp [scanLoop_cons, inside]

theorem passes_open : Passes (outside depth) [openBrace] (outside (depth + 1)) := by
  intro rest i
  have apart : openBrace ≠ quote := by decide
  simp [scanLoop_cons, outside, apart]

theorem passes_close (deep : depth ≠ 1) :
    Passes (outside depth) [closeBrace] (outside (depth - 1)) := by
  intro rest i
  have apart : closeBrace ≠ quote ∧ closeBrace ≠ openBrace := by decide
  have open' : depth - 1 ≠ 0 := by omega
  simp [scanLoop_cons, outside, apart, open']

theorem hex_plain {byte : UInt8} (hex : IsHex byte) : byte ≠ quote ∧ byte ≠ backslash := by
  have notQuote : ¬ IsHex quote := by decide
  have notBackslash : ¬ IsHex backslash := by decide
  exact ⟨fun same => notQuote (same ▸ hex), fun same => notBackslash (same ▸ hex)⟩

theorem passes_content {content : Bytes} (body : IsContent content) :
    Passes (inside depth) content (inside depth) := by
  induction body with
  | empty => exact .nil
  | plain notQuote notBackslash _ _ inductionHypothesis =>
    exact (passes_plain notQuote notBackslash).cons inductionHypothesis
  | escape _ _ inductionHypothesis => exact (passes_escape _).append inductionHypothesis
  | unit hexA hexB hexC hexD _ inductionHypothesis =>
    have digits : ∀ {byte : UInt8}, IsHex byte → Passes (inside depth) [byte] (inside depth) :=
      fun hex => passes_plain (hex_plain hex).1 (hex_plain hex).2
    exact (passes_escape 0x75).append ((digits hexA).cons ((digits hexB).cons ((digits hexC).cons
      ((digits hexD).cons inductionHypothesis))))

theorem passes_quoted {content : Bytes} (body : IsContent content) :
    Passes (outside depth) (quoted content) (outside depth) :=
  passes_openQuote.cons ((passes_content body).append passes_closeQuote)

/-- These bytes leave the scan at the depth where they found it. -/
def KeepsDepth (depth : Int) (bytes : Bytes) : Prop := Passes (outside depth) bytes (outside depth)

theorem KeepsDepth.append (first : KeepsDepth depth front) (second : KeepsDepth depth back) :
    KeepsDepth depth (front ++ back) := Passes.append first second

theorem KeepsDepth.cons {byte : UInt8} (quiet : Quiet byte) (rest : KeepsDepth depth back) :
    KeepsDepth depth (byte :: back) := (passes_quiet quiet).cons rest

theorem keepsDepth_white {white : Bytes} (space : IsWhite white) : KeepsDepth depth white :=
  passes_all_quiet (quiet_white space)

theorem keepsDepth_brackets {inner : Bytes} (within : KeepsDepth depth inner) :
    KeepsDepth depth (openBracket :: (inner ++ [closeBracket])) :=
  (within.append (passes_quiet (by decide))).cons (by decide)

theorem keepsDepth_braces {inner : Bytes} (within : KeepsDepth (depth + 1) inner)
    (positive : 1 ≤ depth) : KeepsDepth depth (openBrace :: (inner ++ [closeBrace])) := by
  have closes : Passes (outside (depth + 1)) [closeBrace] (outside (depth + 1 - 1)) :=
    passes_close (by omega)
  rw [Int.add_sub_cancel] at closes
  exact passes_open.cons (Passes.append within closes)

theorem keepsDepth_element {before value after : Bytes} (spaceBefore : IsWhite before)
    (item : KeepsDepth depth value) (spaceAfter : IsWhite after) :
    KeepsDepth depth (before ++ value ++ after) :=
  ((keepsDepth_white spaceBefore).append item).append (keepsDepth_white spaceAfter)

theorem keepsDepth_member {before key between after value last : Bytes} (spaceBefore : IsWhite before)
    (name : IsContent key) (spaceBetween : IsWhite between) (spaceAfter : IsWhite after)
    (item : KeepsDepth depth value) (spaceLast : IsWhite last) :
    KeepsDepth depth (before ++ quoted key ++ between ++ colon :: (after ++ value ++ last)) := by
  have label : KeepsDepth depth (before ++ quoted key ++ between) :=
    keepsDepth_element spaceBefore (passes_quoted name) spaceBetween
  exact label.append ((keepsDepth_element spaceAfter item spaceLast).cons (by decide))

/-- What the grammar derives leaves the depth as it was. -/
theorem keepsDepth_derived {symbol : JsonSymbol} {bytes : Bytes} (derived : Derives symbol bytes)
    (positive : 1 ≤ depth) : KeepsDepth depth bytes := by
  have quietComma : Quiet comma := by decide
  induction derived generalizing depth with
  | literal word => exact passes_all_quiet (quiet_literal word)
  | number number => exact passes_all_quiet (quiet_number number)
  | string body => exact passes_quoted body
  | emptyArray space => exact keepsDepth_brackets (keepsDepth_white space)
  | array _ items => exact keepsDepth_brackets (items positive)
  | emptyObject space => exact keepsDepth_braces (keepsDepth_white space) positive
  | object _ items => exact keepsDepth_braces (items (by omega)) positive
  | element spaceBefore _ spaceAfter item =>
    exact keepsDepth_element spaceBefore (item positive) spaceAfter
  | elements spaceBefore _ spaceAfter _ item others =>
    have first := keepsDepth_element spaceBefore (item positive) spaceAfter
    exact first.append ((others positive).cons quietComma)
  | member spaceBefore name spaceBetween spaceAfter _ spaceLast item =>
    exact keepsDepth_member spaceBefore name spaceBetween spaceAfter (item positive) spaceLast
  | members spaceBefore name spaceBetween spaceAfter _ spaceLast _ item others =>
    have first :=
      keepsDepth_member spaceBefore name spaceBetween spaceAfter (item positive) spaceLast
    exact first.append ((others positive).cons quietComma)

end

/-! ## What the scan returns -/

section

variable {bytes front back : Bytes} {i stop : Nat} {s : ScanState}

theorem scanLoop_object (encoding : IsObject bytes) :
    scanLoop (bytes ++ back) i {} = some (i + bytes.length) := by
  obtain ⟨inner, content, rfl⟩ := encoding
  have within : KeepsDepth 1 inner := by
    cases content with
    | inl space => exact keepsDepth_white space
    | inr members => exact keepsDepth_derived members (Int.le_refl 1)
  have opened : Passes (outside 0) (openBrace :: inner) (outside 1) := passes_open.cons within
  have last : openBrace :: (inner ++ [closeBrace]) ++ back =
      (openBrace :: inner) ++ closeBrace :: back := by simp
  have apart : closeBrace ≠ quote ∧ closeBrace ≠ openBrace := by decide
  rw [last]
  show scanLoop _ i (outside 0) = _
  rw [opened]
  simp [scanLoop_cons, outside, apart]
  omega

theorem scanLoop_append (returns : scanLoop front i s = some stop) :
    scanLoop (front ++ back) i s = some stop := by
  induction front generalizing i s with
  | nil => simp [scanLoop] at returns
  | cons c front inductionHypothesis =>
    simp only [scanLoop_cons, List.cons_append] at returns ⊢
    grind

theorem scanLoop_le (returns : scanLoop front i s = some stop) : stop ≤ i + front.length := by
  induction front generalizing i s with
  | nil => simp [scanLoop] at returns
  | cons c front inductionHypothesis =>
    simp only [scanLoop_cons] at returns
    grind

end

section

variable {buf bytes : Bytes} {start : Nat}

theorem scanJsonObject_natCast :
    scanJsonObject buf start =
      if (buf.drop start).head? = some openBrace then
        (scanLoop (buf.drop start) start {}).map fun stop => (buf.take stop).drop start
      else none := by
  have first : (buf.drop start).head? = buf[start]? := by simp [List.head?_drop]
  simp only [scanJsonObject, Int.toNat_natCast, first]
  by_cases brace : buf[start]? = some openBrace
  · have inside : start < buf.length := (List.getElem?_eq_some_iff.mp brace).1
    have notPast : ¬ ((buf.length : Int) ≤ start) := by omega
    have notNegative : ¬ ((start : Int) < 0) := by omega
    rw [if_pos brace, if_neg]
    simp only [notPast, notNegative, brace, ne_eq, not_true, or_self, not_false_iff]
  · simp only [brace, ne_eq, not_false_iff, or_true, if_true, if_false]

theorem scanJsonObject_object (encoding : IsObject bytes) (starts : bytes <+: buf.drop start) :
    scanJsonObject buf start = some bytes := by
  obtain ⟨back, whole⟩ := starts
  have brace : (buf.drop start).head? = some openBrace := by
    rw [← whole, List.head?_append, encoding.head]
    rfl
  have slice : (buf.take (start + bytes.length)).drop start = bytes := by
    rw [List.drop_take, ← whole, Nat.add_sub_cancel_left, List.take_left]
  rw [scanJsonObject_natCast, if_pos brace, ← whole, scanLoop_object encoding, Option.map_some,
    slice]

theorem scanJsonObject_truncated (encoding : IsObject bytes) (cut : buf.drop start <+: bytes)
    (proper : buf.drop start ≠ bytes) : scanJsonObject buf start = none := by
  obtain ⟨missing, whole⟩ := cut
  rw [scanJsonObject_natCast]
  split
  · cases returns : scanLoop (buf.drop start) start {} with
    | none => rfl
    | some stop =>
      have later : scanLoop bytes start {} = some stop := whole ▸ scanLoop_append returns
      have complete : scanLoop bytes start {} = some (start + bytes.length) := by
        have found : scanLoop (bytes ++ []) start {} = _ := scanLoop_object encoding
        rwa [List.append_nil] at found
      have near : stop ≤ start + (buf.drop start).length := scanLoop_le returns
      have far : stop = start + bytes.length := Option.some.inj (later.symm.trans complete)
      have lengths : (buf.drop start).length + missing.length = bytes.length := by
        rw [← whole, List.length_append]
      have empty : missing = [] := List.eq_nil_of_length_eq_zero (by omega)
      rw [empty, List.append_nil] at whole
      exact absurd whole proper
  · rfl

end

/-! ## The loop over the usage keys -/

/-- `buf.find(sub, start)` for a `sub` that is not empty: the first index where it occurs. -/
def find (sub buf : Bytes) (start : Nat) : Option Nat :=
  (List.range' start (buf.length - start)).find? fun i => sub.isPrefixOf (buf.drop i)

def usageKey : Bytes := utf8 "\"usage\""

section

variable (loads : Bytes → Option Json) (chunk : Bytes)

/-- The body of the loop at one occurrence of the key: the accumulator that it leaves.  `json.loads`
gives nothing where it raises. -/
def examine (accumulator : Fields) (idx : Nat) : Fields :=
  let start : Int := match find [openBrace] chunk (idx + usageKey.length) with
    | some i => i
    | none => -1
  match (scanJsonObject chunk start).bind loads with
  | some (.obj u) =>
    if Fields.has u "inputTokens" || Fields.has u "outputTokens" then
      let accumulator := accumulator.set "input_tokens" (Fields.getD u "inputTokens" (.int 0))
      let accumulator := accumulator.set "output_tokens" (Fields.getD u "outputTokens" (.int 0))
      let cacheRead := Fields.getD u "cacheReadInputTokens" .null
      let accumulator :=
        if cacheRead.truthy then accumulator.set "cache_read_tokens" cacheRead else accumulator
      let cacheWrite := Fields.getD u "cacheWriteInputTokens" .null
      if cacheWrite.truthy then accumulator.set "cache_write_tokens" cacheWrite else accumulator
    else accumulator
  | _ => accumulator

theorem find_bounds {sub buf : Bytes} {start i : Nat} (found : find sub buf start = some i) :
    start ≤ i ∧ i < buf.length := by
  have member := List.mem_of_find?_eq_some found
  rw [List.mem_range'_1] at member
  omega

/-- `while idx != -1`. -/
def usageLoop (accumulator : Fields) : Option Nat → Fields
  | none => accumulator
  | some idx => usageLoop (examine loads chunk accumulator idx) (find usageKey chunk (idx + 1))
termination_by idx => match idx with
  | none => 0
  | some idx => chunk.length - idx + 1
decreasing_by
  cases next : find usageKey chunk (idx + 1) with
  | none => simp
  | some i =>
    obtain ⟨later, within⟩ := find_bounds next
    simp
    omega

theorem usageLoop_none (accumulator : Fields) : usageLoop loads chunk accumulator none = accumulator :=
  usageLoop.eq_def ..

theorem usageLoop_some (accumulator : Fields) (idx : Nat) :
    usageLoop loads chunk accumulator (some idx) =
      usageLoop loads chunk (examine loads chunk accumulator idx) (find usageKey chunk (idx + 1)) :=
  usageLoop.eq_def ..

/-- `extract_usage_from_stream_chunk`: the accumulator after it. -/
def extractUsageFromStreamChunk (accumulator : Fields) : Fields :=
  usageLoop loads chunk accumulator (find usageKey chunk 0)

end

/-- Where `sub` stands in the bytes from an index on. -/
def positions (sub buf : Bytes) (start : Nat) : List Nat :=
  (List.range' start (buf.length - start)).filter fun i => sub.isPrefixOf (buf.drop i)

theorem find_eq_head? (sub buf : Bytes) (start : Nat) :
    find sub buf start = (positions sub buf start).head? := List.head?_filter.symm

section

variable {sub buf : Bytes} {start idx : Nat}

theorem positions_of_find_none (absent : find sub buf start = none) : positions sub buf start = [] := by
  rw [positions, List.filter_eq_nil_iff]
  exact List.find?_eq_none.mp absent

theorem positions_of_find_some (found : find sub buf start = some idx) :
    positions sub buf start = idx :: positions sub buf (idx + 1) := by
  obtain ⟨here, before, after, whole, earlier⟩ := List.find?_eq_some_iff_append.mp found
  obtain ⟨later, within⟩ := find_bounds found
  have rest : after = List.range' (idx + 1) (buf.length - (idx + 1)) := by
    obtain ⟨k, bound, -, back⟩ := List.range'_eq_append_iff.mp whole
    obtain ⟨first, -, tail⟩ := List.range'_eq_cons_iff.mp back.symm
    rw [tail, ← first]
    congr 1
    omega
  have none : before.filter (fun i => sub.isPrefixOf (buf.drop i)) = [] := by
    rw [List.filter_eq_nil_iff]
    intro i member
    simpa only [Bool.not_eq_true', Bool.not_eq_true] using earlier i member
  rw [positions, whole, List.filter_append, none, List.nil_append, List.filter_cons, if_pos here,
    rest, positions]

theorem mem_positions (some : sub ≠ []) {i : Nat} : i ∈ positions sub buf 0 ↔ sub <+: buf.drop i := by
  rw [positions, List.mem_filter, List.mem_range'_1, List.isPrefixOf_iff_prefix]
  constructor
  · exact fun both => both.2
  · intro here
    have long : sub.length ≤ (buf.drop i).length := here.length_le
    have positive := List.length_pos_iff.mpr some
    rw [List.length_drop] at long
    exact ⟨⟨by omega, by omega⟩, here⟩

theorem usageLoop_eq {chunk : Bytes} (loads : Bytes → Option Json) (accumulator : Fields) :
    usageLoop loads chunk accumulator (find usageKey chunk start) =
      (positions usageKey chunk start).foldl (examine loads chunk) accumulator := by
  -- on the bytes that are left
  induction rest : chunk.length - start using Nat.strongRecOn generalizing start accumulator with
  | _ left inductionHypothesis =>
    cases found : find usageKey chunk start with
    | none => rw [positions_of_find_none found, usageLoop_none, List.foldl_nil]
    | some idx =>
      obtain ⟨later, within⟩ := find_bounds found
      have shorter : chunk.length - (idx + 1) < left := by omega
      rw [positions_of_find_some found, usageLoop_some, List.foldl_cons]
      exact inductionHypothesis _ shorter _ rfl

end

/-- The JSON object scanner finds exactly the object.  From any index on, an object that stands there
is returned to its last byte whatever follows, and one that is cut off is not returned; the
loop ends when it has examined each occurrence of the usage key, in order and once. -/
theorem scanner_finds_object :
    (∀ (buf bytes : Bytes) (start : Nat), IsObject bytes →
      (bytes <+: buf.drop start → scanJsonObject buf start = some bytes) ∧
      (buf.drop start <+: bytes → buf.drop start ≠ bytes → scanJsonObject buf start = none)) ∧
    (∀ (buf : Bytes) (start : Int), start < 0 → scanJsonObject buf start = none) ∧
    (∀ (loads : Bytes → Option Json) (chunk : Bytes) (accumulator : Fields),
      ∃ occurrences : List Nat, extractUsageFromStreamChunk loads chunk accumulator =
          occurrences.foldl (examine loads chunk) accumulator ∧
        (∀ idx, idx ∈ occurrences ↔ usageKey <+: chunk.drop idx) ∧
        occurrences.Pairwise (· < ·)) := by
  refine ⟨?_, ?_, ?_⟩
  · intro buf bytes start encoding
    exact ⟨scanJsonObject_object encoding, scanJsonObject_truncated encoding⟩
  · intro buf start negative
    simp [scanJsonObject, negative]
  · intro loads chunk accumulator
    have ascending : (positions usageKey chunk 0).Pairwise (· < ·) :=
      (List.pairwise_lt_range' 1).sublist List.filter_sublist
    exact ⟨positions usageKey chunk 0, usageLoop_eq loads accumulator,
      fun idx => mem_positions (by decide), ascending⟩

/-- The brace in its key does not end the object. -/
theorem brace_in_key_found :
    scanJsonObject (utf8 "?\x7b\"\x7d\":1\x7d\x7d") 1 = some (utf8 "\x7b\"\x7d\":1\x7d") := by
  have digit : AreDigits [0x31] := ⟨by simp, List.forall_mem_singleton.mpr (by decide)⟩
  have one : IsNumber [0x31] :=
    ⟨[], [0x31], [], [], rfl, .inl rfl, .inr ⟨digit, by decide⟩, .inl rfl, .inl rfl⟩
  have key : IsContent [closeBrace] := .plain (by decide) (by decide) (by decide) .empty
  have space : IsWhite [] := by simp [IsWhite]
  have member := Derives.member space key space space (.number one) space
  have encoding : IsObject (utf8 "\x7b\"\x7d\":1\x7d") := ⟨_, .inr member, by decide⟩
  exact (scanner_finds_object.1 _ _ 1 encoding).1 (by decide)

/-! ## The characters of a text -/

/-- A byte that the scanner does not look for. -/
def IsLetter (byte : UInt8) : Prop :=
  byte ≠ quote ∧ byte ≠ backslash ∧ byte ≠ openBrace ∧ byte ≠ closeBrace

section

variable {depth : Int} {inStr esc : Bool}

theorem passes_letter {byte : UInt8} (letter : IsLetter byte) (within : esc = true → inStr = true) :
    Passes ⟨depth, inStr, esc⟩ [byte] ⟨depth, inStr, false⟩ := by
  intro rest i
  obtain ⟨notQuote, notBackslash, notOpen, notClose⟩ := letter
  cases inStr with
  | false =>
    have unescaped : esc = false := by simpa using within
    simp [scanLoop_cons, unescaped, notQuote, notOpen, notClose]
  | true => cases esc <;> simp [scanLoop_cons, notQuote, notBackslash]

theorem passes_letters {bytes : Bytes} (letters : ∀ byte ∈ bytes, IsLetter byte) :
    Passes ⟨depth, inStr, false⟩ bytes ⟨depth, inStr, false⟩ := by
  induction bytes with
  | nil => exact .nil
  | cons byte bytes inductionHypothesis =>
    obtain ⟨first, others⟩ := List.forall_mem_cons.mp letters
    exact (passes_letter first Bool.noConfusion).cons (inductionHypothesis others)

end

theorem isLetter_of_mem {c : Char} (plain : c ∉ ['"', '\\', '{', '}']) {byte : UInt8}
    (member : byte ∈ String.utf8EncodeChar c) : IsLetter byte := by
  simp only [List.mem_cons, List.not_mem_nil, or_false, not_or] at plain
  have apart : ∀ {a : Char} {symbol : UInt8}, String.utf8EncodeChar a = [symbol] → c ≠ a →
      byte ≠ symbol := by
    intro a symbol single other same
    exact other (eq_of_mem_utf8EncodeChar single (same ▸ member))
  exact ⟨apart (by decide) plain.1, apart (by decide) plain.2.1, apart (by decide) plain.2.2.1,
    apart (by decide) plain.2.2.2⟩

theorem passes_char {depth : Int} {inStr esc : Bool} {c : Char} (plain : c ∉ ['"', '\\', '{', '}'])
    (within : esc = true → inStr = true) :
    Passes ⟨depth, inStr, esc⟩ (String.utf8EncodeChar c) ⟨depth, inStr, false⟩ := by
  have letters : ∀ byte ∈ String.utf8EncodeChar c, IsLetter byte := fun _ => isLetter_of_mem plain
  cases encoded : String.utf8EncodeChar c with
  | nil => exact absurd encoded String.utf8EncodeChar_ne_nil
  | cons byte bytes =>
    rw [encoded] at letters
    obtain ⟨first, others⟩ := List.forall_mem_cons.mp letters
    exact (passes_letter first within).cons (passes_letters others)

/-- What the scanner looks for is one byte, and the comparisons with it are those with the character. -/
theorem symbol_byte {c : Char} (symbol : c ∈ ['"', '\\', '{', '}']) :
    ∃ byte, String.utf8EncodeChar c = [byte] ∧ (byte = quote ↔ c = '"') ∧
      (byte = backslash ↔ c = '\\') ∧ (byte = openBrace ↔ c = '{') ∧ (byte = closeBrace ↔ c = '}') := by
  simp only [List.mem_cons, List.not_mem_nil, or_false] at symbol
  obtain rfl | rfl | rfl | rfl := symbol
  · exact ⟨quote, by decide⟩
  · exact ⟨backslash, by decide⟩
  · exact ⟨openBrace, by decide⟩
  · exact ⟨closeBrace, by decide⟩

theorem map_shift {found : Option Str} {c : Char} {i : Nat} :
    (found.map (c :: ·)).map (fun t => i + (utf8 t).length) =
      found.map fun t => i + (String.utf8EncodeChar c).length + (utf8 t).length := by
  cases found <;> simp [utf8_cons, Nat.add_assoc]

/-- Over the bytes of a text the scan ends where it ends over the characters. -/
theorem scanLoop_utf8 (s : Str) {depth : Nat} (deep : 1 ≤ depth) {inStr esc : Bool}
    (within : esc = true → inStr = true) (i : Nat) :
    scanLoop (utf8 s) i ⟨depth, inStr, esc⟩ =
      (Proxy.scanFrom depth inStr esc s).map fun t => i + (utf8 t).length := by
  induction s generalizing depth inStr esc i with
  | nil => rfl
  | cons c s inductionHypothesis =>
    rw [utf8_cons]
    by_cases plain : c ∉ ['"', '\\', '{', '}']
    · have stepped : Proxy.scanFrom depth inStr esc (c :: s) =
          (Proxy.scanFrom depth inStr false s).map (c :: ·) := by
        simp only [List.mem_cons, List.not_mem_nil, or_false, not_or] at plain
        cases inStr with
        | false => simp [Proxy.scanFrom, plain]
        | true => cases esc <;> simp [Proxy.scanFrom, plain]
      rw [passes_char plain within, stepped, map_shift, inductionHypothesis deep Bool.noConfusion]
    · obtain ⟨byte, encoded, isQuote, isBackslash, isOpen, isClose⟩ := symbol_byte (not_not.mp plain)
      have next : ∀ {depth : Nat}, 1 ≤ depth → ∀ {inStr esc : Bool}, (esc = true → inStr = true) →
          scanLoop (utf8 s) (i + 1) ⟨depth, inStr, esc⟩ =
            ((Proxy.scanFrom depth inStr esc s).map (c :: ·)).map fun t => i + (utf8 t).length := by
        intro depth deep inStr esc within
        rw [map_shift, inductionHypothesis deep within, encoded, List.length_singleton]
      rw [encoded, List.singleton_append]
      simp only [scanLoop_cons, Proxy.scanFrom, isQuote, isBackslash, isOpen, isClose]
      cases inStr with
      | true =>
        cases esc with
        | true => exact next deep Bool.noConfusion
        | false =>
          simp only [if_true, Bool.false_eq_true, if_false]
          split
          · exact next deep fun _ => rfl
          · split
            · next closes => simpa [closes] using @next _ deep false false Bool.noConfusion
            · next goesOn => simpa [goesOn] using @next _ deep true false Bool.noConfusion
      | false =>
        have unescaped : esc = false := by simpa using within
        subst unescaped
        simp only [Bool.false_eq_true, if_false]
        split
        · exact next deep Bool.noConfusion
        · split
          · exact next (Nat.le_succ_of_le deep) Bool.noConfusion
          · split
            · by_cases last : depth = 1
              · rw [if_pos last, if_pos (by omega), Option.map_some, utf8_cons, encoded]
                rfl
              · have positive : 1 ≤ depth - 1 := by omega
                have cast : ((depth - 1 : Nat) : Int) = depth - 1 := by omega
                have shallower : ¬ ((depth : Int) - 1 = 0) := by omega
                rw [if_neg last, if_neg shallower, ← cast]
                exact next positive Bool.noConfusion
            · exact next deep Bool.noConfusion

theorem scanFrom_prefix {s blob : Str} {depth : Nat} {inStr esc : Bool}
    (found : Proxy.scanFrom depth inStr esc s = some blob) : blob <+: s := by
  induction s generalizing depth inStr esc blob with
  | nil => cases found
  | cons c s inductionHypothesis =>
    have step : ∀ {depth : Nat} {inStr esc : Bool},
        (Proxy.scanFrom depth inStr esc s).map (c :: ·) = some blob → blob <+: c :: s := by
      intro depth inStr esc mapped
      obtain ⟨rest, scanned, rfl⟩ := Option.map_eq_some_iff.mp mapped
      exact List.prefix_cons_inj c |>.mpr (inductionHypothesis scanned)
    simp only [Proxy.scanFrom] at found
    split_ifs at found <;> try exact step found
    exact ⟨s, by rw [← Option.some.inj found, List.singleton_append]⟩

/-- From the first byte of a character on, the scanner finds the bytes of what the scan over the
characters finds. -/
theorem scanJsonObject_utf8 (front : Bytes) (s : Str) :
    scanJsonObject (front ++ utf8 s) front.length = (Proxy.scanJsonObject s).map utf8 := by
  rw [scanJsonObject_natCast, List.drop_left]
  cases s with
  | nil => rfl
  | cons c s =>
    by_cases brace : c = '{'
    · subst brace
      have encoded : ∀ t : Str, utf8 ('{' :: t) = openBrace :: utf8 t := fun _ => rfl
      have first : scanLoop (utf8 ('{' :: s)) front.length {} =
          scanLoop (utf8 s) (front.length + 1) ⟨(1 : Nat), false, false⟩ :=
        passes_open (utf8 s) front.length
      have scanned : Proxy.scanJsonObject ('{' :: s) =
          (Proxy.scanFrom 1 false false s).map ('{' :: ·) := by
        simp [Proxy.scanJsonObject, Proxy.scanFrom]
      rw [if_pos (by rw [encoded, List.head?_cons]), first, scanned,
        scanLoop_utf8 s le_rfl Bool.noConfusion]
      cases found : Proxy.scanFrom 1 false false s with
      | none => rfl
      | some blob =>
        obtain ⟨back, rfl⟩ := scanFrom_prefix found
        have stop : front.length + 1 + (utf8 blob).length =
            front.length + (utf8 ('{' :: blob)).length := by
          rw [encoded, List.length_cons]
          omega
        have whole : utf8 ('{' :: (blob ++ back)) = utf8 ('{' :: blob) ++ utf8 back :=
          utf8_append ('{' :: blob) back
        simp only [Option.map_some]
        rw [stop, whole, List.drop_take, List.drop_left, Nat.add_sub_cancel_left, List.take_left]
    · have other : (utf8 (c :: s)).head? ≠ some openBrace := by
        intro first
        cases encoded : String.utf8EncodeChar c with
        | nil => exact String.utf8EncodeChar_ne_nil encoded
        | cons byte bytes =>
          rw [utf8_cons, encoded, List.cons_append, List.head?_cons, Option.some.injEq] at first
          have member : openBrace ∈ String.utf8EncodeChar c := by simp [encoded, first]
          have opens : String.utf8EncodeChar '{' = [openBrace] := by decide
          exact brace (eq_of_mem_utf8EncodeChar opens member)
      rw [if_neg other]
      simp [Proxy.scanJsonObject, brace]

section

variable {first : UInt8} {more front bytes rest : Bytes}

theorem positions_nil (sub : Bytes) : positions sub front front.length = [] := by
  simp [positions]

theorem positions_cons (sub : Bytes) (byte : UInt8) :
    positions sub (front ++ byte :: rest) front.length =
      (if sub.isPrefixOf (byte :: rest) then [front.length] else []) ++
        positions sub (front ++ [byte] ++ rest) (front ++ [byte]).length := by
  have indices : List.range' front.length ((front ++ byte :: rest).length - front.length) =
      front.length :: List.range' (front ++ [byte]).length
        ((front ++ [byte] ++ rest).length - (front ++ [byte]).length) := by
    have length : (front ++ byte :: rest).length - front.length = rest.length + 1 := by simp
    have left : (front ++ [byte] ++ rest).length - (front ++ [byte]).length = rest.length := by
      simp
      omega
    rw [length, left, List.range'_succ, List.length_append, List.length_singleton]
  have same : front ++ [byte] ++ rest = front ++ byte :: rest := by simp
  rw [positions, indices, List.filter_cons, List.drop_left, positions, same]
  split <;> rfl

theorem positions_skip (absent : first ∉ bytes) :
    positions (first :: more) (front ++ (bytes ++ rest)) front.length =
      positions (first :: more) (front ++ bytes ++ rest) (front ++ bytes).length := by
  induction bytes generalizing front with
  | nil => simp
  | cons byte bytes inductionHypothesis =>
    obtain ⟨other, later⟩ := not_or.mp (List.mem_cons.not.mp absent)
    have none : (first :: more).isPrefixOf (byte :: (bytes ++ rest)) = false := by
      simp [List.isPrefixOf, other]
    rw [List.cons_append, positions_cons, none, inductionHypothesis later]
    simp

end

theorem scanJsonObject_brace (front : Bytes) (s : Str) :
    scanJsonObject (front ++ utf8 s)
        (match find [openBrace] (front ++ utf8 s) front.length with
          | some i => (i : Int)
          | none => -1) =
      (Proxy.scanJsonObject (s.dropWhile (· ≠ '{'))).map utf8 := by
  induction s generalizing front with
  | nil => simp [find_eq_head?, positions_nil, scanJsonObject, Proxy.scanJsonObject]
  | cons c s inductionHypothesis =>
    have opens : String.utf8EncodeChar '{' = [openBrace] := by decide
    by_cases brace : c = '{'
    · subst brace
      have here : find [openBrace] (front ++ utf8 ('{' :: s)) front.length = some front.length := by
        rw [find_eq_head?, utf8_cons, opens, List.singleton_append, positions_cons]
        simp [List.isPrefixOf]
      rw [here, List.dropWhile_cons_of_neg (by simp)]
      exact scanJsonObject_utf8 front ('{' :: s)
    · have absent : openBrace ∉ String.utf8EncodeChar c := fun member =>
        brace (eq_of_mem_utf8EncodeChar opens member)
      have later := inductionHypothesis (front ++ String.utf8EncodeChar c)
      rw [find_eq_head?, ← positions_skip absent, ← find_eq_head?, List.append_assoc,
        ← utf8_cons] at later
      rw [later, List.dropWhile_cons_of_pos (by simpa using brace)]

/-- What `extract_usage_from_stream` makes of the accumulator. -/
def tokenUsage (accumulator : Fields) : Cost.TokenUsage where
  inputTokens := accumulator.getD "input_tokens" (.int 0)
  outputTokens := accumulator.getD "output_tokens" (.int 0)
  reasoningTokens := accumulator.getD "reasoning_tokens" (.int 0)
  cacheReadTokens := accumulator.getD "cache_read_tokens" (.int 0)
  cacheWriteTokens := accumulator.getD "cache_write_tokens" (.int 0)
  audioInputTokens := accumulator.getD "audio_input_tokens" (.int 0)
  audioOutputTokens := accumulator.getD "audio_output_tokens" (.int 0)

theorem getD_set (fields : Fields) (key : Str) (value default : Json) :
    (fields.set key value).getD key default = value := by
  rw [Fields.getD, Fields.get?_set, Option.getD_some]

theorem getD_set_of_ne (fields : Fields) {key other : Str} (distinct : other ≠ key)
    (value default : Json) : (fields.set key value).getD other default = fields.getD other default := by
  rw [Fields.getD, Fields.get?_set_of_ne _ _ distinct, Fields.getD]

section

variable (loads : Bytes → Option Json)

theorem tokenUsage_examine {chunk : Bytes} {idx : Nat} {start : Int}
    (starts : (match find [openBrace] chunk (idx + usageKey.length) with
        | some i => (i : Int)
        | none => -1) = start) (accumulator : Fields) :
    tokenUsage (examine loads chunk accumulator idx) =
      match (scanJsonObject chunk start).bind loads with
      | some (.obj u) => Proxy.accumulateBedrock (tokenUsage accumulator) u
      | _ => tokenUsage accumulator := by
  subst starts
  delta examine
  dsimp only
  generalize (scanJsonObject chunk _).bind loads = read
  match read with
  | some (.obj u) =>
    simp only [Proxy.accumulateBedrock]
    split
    · split <;> split <;>
        simp (disch := exact str_ne (by simp)) only [tokenUsage, getD_set, getD_set_of_ne]
    · rfl
  | none | some .null | some (.bool _) | some (.int _) | some (.float _) | some (.str _) | some (.arr _) => rfl

theorem tokenUsage_examine_utf8 (front : Bytes) (back : Str) (accumulator : Fields) :
    tokenUsage (examine loads (front ++ (usageKey ++ utf8 back)) accumulator front.length) =
      Proxy.readBlob (fun text => loads (utf8 text)) (tokenUsage accumulator) back := by
  have blob := scanJsonObject_brace (front ++ usageKey) back
  rw [List.append_assoc, List.length_append] at blob
  rw [tokenUsage_examine loads rfl accumulator, Proxy.readBlob]
  simp only [blob, Option.bind_map]
  rfl

/-- Within the bytes of a character no key begins but at the first. -/
theorem positions_utf8_cons (front : Bytes) (c : Char) (s : Str) :
    positions usageKey (front ++ utf8 (c :: s)) front.length =
      (if startsWith "\"usage\"" (c :: s) then [front.length] else []) ++
        positions usageKey (front ++ String.utf8EncodeChar c ++ utf8 s)
          (front ++ String.utf8EncodeChar c).length := by
  have quotes : String.utf8EncodeChar '"' = [quote] := by decide
  have starts : usageKey.isPrefixOf (utf8 (c :: s)) = startsWith "\"usage\"" (c :: s) := by
    rw [Bool.eq_iff_iff, List.isPrefixOf_iff_prefix, startsWith, List.isPrefixOf_iff_prefix]
    exact utf8_prefix_iff
  rw [← starts, utf8_cons]
  cases encoded : String.utf8EncodeChar c with
  | nil => exact absurd encoded String.utf8EncodeChar_ne_nil
  | cons byte bytes =>
    have absent : quote ∉ bytes := by
      intro later
      have member : quote ∈ String.utf8EncodeChar c := encoded ▸ List.mem_cons_of_mem byte later
      rw [eq_of_mem_utf8EncodeChar quotes member, quotes] at encoded
      cases encoded
      cases later
    rw [List.cons_append, positions_cons]
    congr 1
    have skipped := @positions_skip _ usageKey.tail (front ++ [byte]) bytes (utf8 s) absent
    have head : quote :: usageKey.tail = usageKey := by decide
    rw [head] at skipped
    simpa using skipped

theorem foldl_examine_utf8 (front : Bytes) (s : Str) (accumulator : Fields) :
    tokenUsage ((positions usageKey (front ++ utf8 s) front.length).foldl
        (examine loads (front ++ utf8 s)) accumulator) =
      Proxy.scanUsage (fun text => loads (utf8 text)) (tokenUsage accumulator) s := by
  induction s generalizing front accumulator with
  | nil =>
    rw [utf8_nil, List.append_nil, positions_nil]
    rfl
  | cons c s inductionHypothesis =>
    have whole : front ++ utf8 (c :: s) = front ++ String.utf8EncodeChar c ++ utf8 s := by
      rw [utf8_cons, List.append_assoc]
    rw [positions_utf8_cons, Proxy.scanUsage]
    by_cases key : startsWith "\"usage\"" (c :: s) = true
    · obtain ⟨back, here⟩ := List.isPrefixOf_iff_prefix.mp key
      have rest : (c :: s).drop 7 = back := by rw [← here]; rfl
      have read := tokenUsage_examine_utf8 loads front back accumulator
      have chunk : usageKey ++ utf8 back = utf8 (c :: s) := by
        rw [← here, utf8_append]
        rfl
      rw [chunk] at read
      rw [if_pos key, if_pos key, List.singleton_append, List.foldl_cons, rest, ← read, whole]
      exact inductionHypothesis _ _
    · rw [if_neg key, if_neg key, List.nil_append, whole]
      exact inductionHypothesis _ accumulator

/-- Over the bytes of a text the accumulator becomes what it becomes over the characters. -/
theorem extractUsageFromStreamChunk_utf8 (text : Str) (accumulator : Fields) :
    tokenUsage (extractUsageFromStreamChunk loads (utf8 text) accumulator) =
      Proxy.extractUsageFromStreamChunk (fun blob => loads (utf8 blob)) .bedrock
        (tokenUsage accumulator) text := by
  rw [extractUsageFromStreamChunk, usageLoop_eq]
  exact foldl_examine_utf8 loads [] text accumulator

/-- Hence the usage that a stream leaves. -/
theorem extractUsageFromStream_utf8 (texts : List Str) :
    tokenUsage (texts.foldl (fun accumulator text =>
        extractUsageFromStreamChunk loads (utf8 text) accumulator) []) =
      Proxy.extractUsageFromStream (fun blob => loads (utf8 blob)) .bedrock texts :=
  (List.foldl_hom tokenUsage fun accumulator text =>
    (extractUsageFromStreamChunk_utf8 loads text accumulator).symm).symm

end

end BurnLens.Providers
