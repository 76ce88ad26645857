import BurnLens.Library.Json
import BurnLens.Library.Utf8

/-! # The signature of a webhook

`_verify_signature`, which reads the header as a dictionary, against what the header says: some
timestamp within the tolerance, and some digest of it and the body.
-/

namespace BurnLens.Backend

open Library

/-- The value of a decimal digit of any script. -/
def digitValue (c : Char) : Option Nat :=
  (decimalZeros.find? fun start => start ≤ c.toNat && c.toNat < start + 10).map (c.toNat - ·)

/-- Digits, with single underscores between them. -/
def digitsValue (value : Nat) : Str → Option Nat
  | [] => some value
  | '_' :: c :: s => (digitValue c).bind fun digit => digitsValue (value * 10 + digit) s
  | c :: s => (digitValue c).bind fun digit => digitsValue (value * 10 + digit) s

def parseDigits : Str → Option Nat
  | [] => none
  | c :: s =>
    -- `sys.int_info.default_max_str_digits`
    if 4300 < ((c :: s).filter (· ≠ '_')).length then none
    else (digitValue c).bind fun digit => digitsValue digit s

/-- What `int` skips at both ends: unlike `str.strip`, not the separators U+001C to U+001F. -/
def isIntSpace (c : Char) : Bool := isSpace c && !(28 ≤ c.toNat && c.toNat ≤ 31)

/-- `int(text)`, nothing where it raises. -/
def parseInt (text : Str) : Option Int :=
  match (text.dropWhile isIntSpace).rdropWhile isIntSpace with
  | '-' :: digits => (parseDigits digits).map fun n => -(n : Int)
  | '+' :: digits => (parseDigits digits).map Int.ofNat
  | digits => (parseDigits digits).map Int.ofNat

example : parseInt " +1_700 " = some 1700 ∧ parseInt "1__7" = none ∧ parseInt "٣" = some 3 ∧
    parseInt "\x1c1" = none := by
  decide +kernel

/-! ## The code -/

/-- HMAC-SHA-256 of a key and a message, in hexadecimal. -/
structure Hmac where
  hexdigest : List UInt8 → List UInt8 → Str
  length : ∀ key message, (hexdigest key message).length = 64
  plain : ∀ key message, ∀ c ∈ hexdigest key message, c.toNat < 128

def IsAscii (s : Str) : Prop := ∀ c ∈ s, c.toNat < 128

instance (s : Str) : Decidable (IsAscii s) := List.decidableBAll (fun c : Char => c.toNat < 128) s

/-- `hmac.compare_digest` of two texts. -/
def compareDigest (a b : Str) : Except PyError Bool :=
  if IsAscii a ∧ IsAscii b then .ok (a = b) else .error .typeError

/-- `p.split("=", 1)`, where it has two parts. -/
def splitPair (part : Str) : Option (Str × Str) :=
  match part.dropWhile (· ≠ '=') with
  | [] => none
  | _ :: value => some (before '=' part, value)

/-- The pairs of a header, nothing where a part is none. -/
def headerPairs (header : Str) : Option (List (Str × Str)) := (header.splitOn ';').mapM splitPair

/-- `dict(pairs).get(key)` as a text: the last pair of a key counts, and without one it is as if
    empty. -/
def lastValue (pairs : List (Str × Str)) (key : Str) : Str := (pairs.reverse.lookup key).getD []

/-- Where `int(ts)` does not raise and is close enough to now. -/
def withinTolerance (now tolerance : Int) (ts : Str) : Bool :=
  (parseInt ts).any fun n => |now - n| ≤ tolerance

def signedDigest (hmac : Hmac) (rawBody : List UInt8) (secret ts : Str) : Str :=
  hmac.hexdigest (utf8 secret) (utf8 (ts ++ [':']) ++ rawBody)

/-- `_verify_signature`; a tolerance out of range fails the assertion. -/
def verifySignature (hmac : Hmac) (header : Str) (rawBody : List UInt8) (secret : Str) (now : Int)
    (tolerance : Int := 60) : Except PyError Bool :=
  if ¬ (0 < tolerance ∧ tolerance ≤ 300) then .error .runtimeError
  else if header = [] then .ok false
  else
    match headerPairs header with
    | none => .ok false
    | some parts =>
      let ts := lastValue parts "ts"
      let h1 := lastValue parts "h1"
      if ts = [] ∨ h1 = [] then .ok false
      else if !withinTolerance now tolerance ts then .ok false
      else compareDigest (signedDigest hmac rawBody secret ts) h1

section

variable (hmac : Hmac) (rawBody : List UInt8) (secret : Str) (now : Int)

structure Verifies (ts h1 : Str) : Prop where
  recent : withinTolerance now 60 ts = true
  digest : h1 = signedDigest hmac rawBody secret ts

/-- The header has a timestamp and a digest that verify. -/
def Authentic (header : Str) : Prop :=
  ∃ parts, headerPairs header = some parts ∧ ∃ ts h1, ("ts".toList, ts) ∈ parts ∧
    ("h1".toList, h1) ∈ parts ∧ Verifies hmac rawBody secret now ts h1

/-- No comparison of what is not ASCII, and the last timestamp and the last digest verify if any
    do. -/
structure LastDecides (parts : List (Str × Str)) : Prop where
  plain : withinTolerance now 60 (lastValue parts "ts") = true →
    ∀ c ∈ lastValue parts "h1", c.toNat < 128
  last : ∀ ts h1, ("ts".toList, ts) ∈ parts → ("h1".toList, h1) ∈ parts →
    Verifies hmac rawBody secret now ts h1 →
    Verifies hmac rawBody secret now (lastValue parts "ts") (lastValue parts "h1")

end

/-! ## When the code decides so -/

section

variable {hmac : Hmac} {rawBody : List UInt8} {secret : Str} {now : Int} {header : Str}
  {parts : List (Str × Str)}

theorem mem_lastValue {key : Str} (filled : lastValue parts key ≠ []) :
    (key, lastValue parts key) ∈ parts := by
  rw [lastValue] at filled ⊢
  cases found : parts.reverse.lookup key with
  | none =>
    rw [found] at filled
    exact absurd rfl filled
  | some value =>
    obtain ⟨front, back, split, -⟩ := List.lookup_eq_some_iff.mp found
    rw [Option.getD_some, ← List.mem_reverse, split]
    exact List.mem_append_right _ (.head _)

theorem digest_ne_nil (ts : Str) : signedDigest hmac rawBody secret ts ≠ [] := by
  have long := hmac.length (utf8 secret) (utf8 (ts ++ [':']) ++ rawBody)
  intro empty
  rw [signedDigest] at empty
  rw [empty] at long
  cases long

theorem withinTolerance_nil (tolerance : Int) : withinTolerance now tolerance [] = false := rfl

theorem verifySignature_parts (read : headerPairs header = some parts) :
    verifySignature hmac header rawBody secret now =
      if withinTolerance now 60 (lastValue parts "ts") then
        compareDigest (signedDigest hmac rawBody secret (lastValue parts "ts")) (lastValue parts "h1")
      else .ok false := by
  have filled : header ≠ [] := by
    rintro rfl
    cases read
  rw [verifySignature, if_neg (by decide), if_neg filled, read]
  cases recent : withinTolerance now 60 (lastValue parts "ts") with
  | false =>
    simp only [recent]
    split <;> rfl
  | true =>
    have hasTs : lastValue parts "ts" ≠ [] := by
      intro empty
      rw [empty, withinTolerance_nil] at recent
      cases recent
    by_cases empty : lastValue parts "h1" = []
    · have plain : IsAscii (signedDigest hmac rawBody secret (lastValue parts "ts")) ∧ IsAscii [] :=
        ⟨hmac.plain _ _, List.forall_mem_nil _⟩
      simp only [recent]
      rw [empty, if_pos (.inr rfl), if_pos trivial, compareDigest, if_pos plain,
        decide_eq_false (digest_ne_nil _)]
    · simp only [recent]
      rw [if_neg (not_or.mpr ⟨hasTs, empty⟩)]
      rfl

theorem compareDigest_plain {ts h1 : Str} (plain : ∀ c ∈ h1, c.toNat < 128) :
    compareDigest (signedDigest hmac rawBody secret ts) h1 =
      .ok (decide (signedDigest hmac rawBody secret ts = h1)) :=
  if_pos ⟨hmac.plain _ _, plain⟩

theorem Verifies.plain {ts h1 : Str} (verifies : Verifies hmac rawBody secret now ts h1) :
    ∀ c ∈ h1, c.toNat < 128 := by
  rw [verifies.digest]
  exact hmac.plain _ _

/-- Where nothing raises, the last timestamp and the last digest are compared. -/
theorem verifySignature_plain (hmac : Hmac) (rawBody : List UInt8) (secret : Str)
    (read : headerPairs header = some parts)
    (plain : withinTolerance now 60 (lastValue parts "ts") = true →
      ∀ c ∈ lastValue parts "h1", c.toNat < 128) :
    ∃ verdict, verifySignature hmac header rawBody secret now = .ok verdict ∧ (verdict = true ↔
      Verifies hmac rawBody secret now (lastValue parts "ts") (lastValue parts "h1")) := by
  rw [verifySignature_parts read]
  by_cases recent : withinTolerance now 60 (lastValue parts "ts") = true
  · rw [if_pos recent, compareDigest_plain (plain recent)]
    refine ⟨_, rfl, ?_⟩
    rw [decide_eq_true_eq]
    exact ⟨fun same => ⟨recent, same.symm⟩, fun verifies => verifies.digest.symm⟩
  · rw [if_neg recent]
    exact ⟨false, rfl, fun never => absurd never Bool.false_ne_true,
      fun verifies => absurd verifies.recent recent⟩

/-- The check does not raise and says what the header says if and only if the last timestamp and the
    last digest decide. -/
theorem verification_exact_iff (hmac : Hmac) (header : Str) (rawBody : List UInt8) (secret : Str)
    (now : Int) :
    (∃ verdict, verifySignature hmac header rawBody secret now = .ok verdict ∧
        (verdict = true ↔ Authentic hmac rawBody secret now header)) ↔
      ∀ parts, headerPairs header = some parts → LastDecides hmac rawBody secret now parts := by
  cases read : headerPairs header with
  | none =>
    have refused : verifySignature hmac header rawBody secret now = .ok false := by
      rw [verifySignature, if_neg (by decide), read]
      split <;> rfl
    constructor
    · intro _ parts found
      cases found
    · intro _
      refine ⟨false, refused, fun never => absurd never Bool.false_ne_true, ?_⟩
      rintro ⟨parts, found, _⟩
      rw [read] at found
      cases found
  | some parts =>
    have authentic_iff : Authentic hmac rawBody secret now header ↔ ∃ ts h1, ("ts".toList, ts) ∈ parts ∧
        ("h1".toList, h1) ∈ parts ∧ Verifies hmac rawBody secret now ts h1 := by
      rw [Authentic, read]
      exact ⟨fun ⟨_, same, its⟩ => Option.some.inj same ▸ its, fun its => ⟨parts, rfl, its⟩⟩
    -- the last values are values of the header, unless they are empty
    have last_authentic : Verifies hmac rawBody secret now (lastValue parts "ts") (lastValue parts "h1") →
        Authentic hmac rawBody secret now header := by
      intro verifies
      have hasTs : lastValue parts "ts" ≠ [] := by
        intro empty
        have recent := verifies.recent
        rw [empty, withinTolerance_nil] at recent
        cases recent
      have hasH1 : lastValue parts "h1" ≠ [] := by
        rw [verifies.digest]
        exact digest_ne_nil _
      exact authentic_iff.mpr ⟨_, _, mem_lastValue hasTs, mem_lastValue hasH1, verifies⟩
    constructor
    · rintro ⟨verdict, returned, truth⟩ _ same
      cases same
      have plain : withinTolerance now 60 (lastValue parts "ts") = true →
          ∀ c ∈ lastValue parts "h1", c.toNat < 128 := by
        intro recent
        rw [verifySignature_parts read, if_pos recent, compareDigest] at returned
        split at returned
        · next compared => exact compared.2
        · cases returned
      refine ⟨plain, fun ts h1 hasTs hasH1 verifies => ?_⟩
      obtain ⟨verdict', returned', tells⟩ :=
        verifySignature_plain hmac rawBody secret read plain
      rw [returned] at returned'
      cases returned'
      exact tells.mp (truth.mpr (authentic_iff.mpr ⟨ts, h1, hasTs, hasH1, verifies⟩))
    · intro decides
      obtain ⟨plain, last⟩ := decides parts rfl
      obtain ⟨verdict, returned, tells⟩ :=
        verifySignature_plain hmac rawBody secret read plain
      refine ⟨verdict, returned, tells.trans ⟨last_authentic, fun authentic => ?_⟩⟩
      obtain ⟨ts, h1, hasTs, hasH1, verifies⟩ := authentic_iff.mp authentic
      exact last ts h1 hasTs hasH1 verifies

end

/-- The digest of one message, right; those of the others are not looked at. -/
def knownHmac : Hmac where
  hexdigest key message :=
    if key = utf8 "secret" ∧ message = utf8 "1700:\x7b\x7d" then
      "4b63dc4136e5c631a9d3407bc8d646491d0e9dd9b9a19f93a7ad03faa7296c38".toList
    else List.replicate 64 '0'
  length key message := by
    split
    · rfl
    · exact List.length_replicate
  plain key message c hc := by
    split at hc
    · exact (by decide +kernel : IsAscii
        "4b63dc4136e5c631a9d3407bc8d646491d0e9dd9b9a19f93a7ad03faa7296c38".toList) c hc
    · rw [List.eq_of_mem_replicate hc]
      decide

/-- The right digest, and after it the one under another secret. -/
def rotated : Str :=
  "ts=1700;h1=4b63dc4136e5c631a9d3407bc8d646491d0e9dd9b9a19f93a7ad03faa7296c38;h1=beef".toList

theorem accented_raises_and_rotated_fails :
    verifySignature knownHmac "ts=1700;h1=é" (utf8 "\x7b\x7d") "secret" 1700 = .error .typeError ∧
      verifySignature knownHmac rotated (utf8 "\x7b\x7d") "secret" 1700 = .ok false ∧
        Authentic knownHmac (utf8 "\x7b\x7d") "secret" 1700 rotated := by
  refine ⟨by decide +kernel, by decide +kernel, ?_⟩
  have read : headerPairs rotated = some [("ts".toList, "1700".toList),
      ("h1".toList, "4b63dc4136e5c631a9d3407bc8d646491d0e9dd9b9a19f93a7ad03faa7296c38".toList),
      ("h1".toList, "beef".toList)] := by
    decide +kernel
  refine ⟨_, read, _, _, .head _, .tail _ (.head _), ?_⟩
  exact ⟨by decide +kernel, by decide +kernel⟩

end BurnLens.Backend
