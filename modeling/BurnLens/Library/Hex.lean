import BurnLens.Library.JsonText
import Mathlib.Data.List.Lex
import Mathlib.Tactic.Ring

/-! # Hexadecimal texts

The digits of bytes, as `bytes.hex()` writes them.  Texts of as many bytes are ordered as the numbers
that the bytes make, the first byte the most significant.
-/

namespace BurnLens.Library

def hexDigit (c : Char) : Option Nat :=
  if '0' ≤ c ∧ c ≤ '9' then some (c.toNat - 48)
  else if 'a' ≤ c ∧ c ≤ 'f' then some (c.toNat - 87)
  else if 'A' ≤ c ∧ c ≤ 'F' then some (c.toNat - 55)
  else none

def hexByte (byte : UInt8) : Str := [Nat.digitChar (byte.toNat / 16), Nat.digitChar (byte.toNat % 16)]

def hex (bytes : List UInt8) : Str := bytes.flatMap hexByte

/-- `int.from_bytes(bytes, "big")`. -/
def bytesNumber : List UInt8 → Nat
  | [] => 0
  | byte :: bytes => byte.toNat * 256 ^ bytes.length + bytesNumber bytes

/-- `int(digits, 16)`. -/
def hexNumber : Str → Nat
  | [] => 0
  | digit :: digits => hexValue digit * 16 ^ digits.length + hexNumber digits

theorem hex_cons (byte : UInt8) (bytes : List UInt8) : hex (byte :: bytes) =
    Nat.digitChar (byte.toNat / 16) :: Nat.digitChar (byte.toNat % 16) :: hex bytes := rfl

theorem hex_append (bytes more : List UInt8) : hex (bytes ++ more) = hex bytes ++ hex more := by
  simp [hex]

@[simp] theorem length_hex (bytes : List UInt8) : (hex bytes).length = 2 * bytes.length := by
  induction bytes with
  | nil => rfl
  | cons byte bytes inductionHypothesis =>
    simp only [hex_cons, List.length_cons, inductionHypothesis]
    omega

theorem toNat_halves (byte : UInt8) : byte.toNat / 16 < 16 ∧ byte.toNat % 16 < 16 := by
  have := byte.toNat_lt
  omega

theorem bytesNumber_lt (bytes : List UInt8) : bytesNumber bytes < 256 ^ bytes.length := by
  induction bytes with
  | nil => simp [bytesNumber]
  | cons byte bytes inductionHypothesis =>
    have small := byte.toNat_lt
    have room := Nat.mul_le_mul_right (256 ^ bytes.length) (Nat.succ_le_of_lt small)
    rw [bytesNumber, List.length_cons, Nat.pow_succ, Nat.mul_comm (256 ^ bytes.length)]
    rw [Nat.succ_mul] at room
    omega

theorem bytesNumber_append (bytes more : List UInt8) : bytesNumber (bytes ++ more) =
    bytesNumber bytes * 256 ^ more.length + bytesNumber more := by
  induction bytes with
  | nil => simp [bytesNumber]
  | cons byte bytes inductionHypothesis =>
    rw [List.cons_append, bytesNumber, bytesNumber, inductionHypothesis, List.length_append,
      Nat.pow_add]
    ring

theorem hexNumber_hex (bytes : List UInt8) : hexNumber (hex bytes) = bytesNumber bytes := by
  induction bytes with
  | nil => rfl
  | cons byte bytes inductionHypothesis =>
    obtain ⟨high, low⟩ := toNat_halves byte
    have halves := Nat.div_add_mod byte.toNat 16
    rw [hex_cons, hexNumber, hexNumber, hexValue_digitChar high, hexValue_digitChar low,
      inductionHypothesis, bytesNumber, List.length_cons, length_hex, Nat.pow_succ, Nat.pow_mul]
    nth_rewrite 3 [← halves]
    ring

theorem hexChar_lt {m n : Nat} (hm : m < 16) (hn : n < 16) :
    Nat.digitChar m < Nat.digitChar n ↔ m < n := by
  have digits : ∀ m n : Fin 16, Nat.digitChar m < Nat.digitChar n ↔ m < n := by decide
  exact digits ⟨m, hm⟩ ⟨n, hn⟩

theorem hexChar_inj {m n : Nat} (hm : m < 16) (hn : n < 16) :
    Nat.digitChar m = Nat.digitChar n ↔ m = n := by
  have digits : ∀ m n : Fin 16, Nat.digitChar m = Nat.digitChar n ↔ m = n := by decide
  exact (digits ⟨m, hm⟩ ⟨n, hn⟩).trans Fin.mk.inj_iff

/-- Two texts that begin with as many bytes are ordered by the numbers of these, and by what follows
    where these agree. -/
theorem hex_append_lt {bytes others : List UInt8} (same : bytes.length = others.length) (s t : Str) :
    hex bytes ++ s < hex others ++ t ↔ bytesNumber bytes < bytesNumber others ∨
      bytesNumber bytes = bytesNumber others ∧ s < t := by
  induction bytes generalizing others with
  | nil =>
    cases others with
    | nil => simp [hex, bytesNumber]
    | cons => cases same
  | cons byte bytes inductionHypothesis =>
    cases others with
    | nil => cases same
    | cons other others =>
      have lengths : bytes.length = others.length := by simpa using same
      obtain ⟨high, low⟩ := toNat_halves byte
      obtain ⟨highOther, lowOther⟩ := toNat_halves other
      simp only [hex_cons, List.cons_append, List.cons_lt_cons_iff, inductionHypothesis lengths,
        hexChar_lt high highOther, hexChar_inj high highOther, hexChar_lt low lowOther,
        hexChar_inj low lowOther, bytesNumber, lengths]
      have small := bytesNumber_lt bytes
      have smallOther := bytesNumber_lt others
      rw [lengths] at small
      generalize 256 ^ others.length = p at small smallOther ⊢
      -- a number is its leading byte and the rest
      obtain less | equal | greater := lt_trichotomy byte.toNat other.toNat
      · have room := Nat.mul_le_mul_right p (Nat.succ_le_of_lt less)
        rw [Nat.succ_mul] at room
        constructor
        · intro _
          left
          omega
        · intro _
          omega
      · rw [equal]
        simp
      · have room := Nat.mul_le_mul_right p (Nat.succ_le_of_lt greater)
        rw [Nat.succ_mul] at room
        constructor
        · intro _
          omega
        · intro _
          omega

end BurnLens.Library
