import BurnLens.Library.Hex

/-! # Event ids

`uuid7` draws a time under a lock, never twice the same and never an earlier one, and writes it in
front of random bytes.  The calls of a process are listed here in the order in which they take the
lock, whatever their threads.
-/

namespace BurnLens.Storage

open Library

/-- What one call reads: `int(time.time() * 1000)`, and `os.urandom(16)`. -/
structure Draw where
  reading : Int
  random : List UInt8
  drawn : random.length = 16

/-- What the lock protects: the time of a call, after the last one of the process. -/
def nextTimestamp (last : Nat) (reading : Int) : Nat :=
  if reading ≤ last then last + 1 else reading.toNat

def byteAt (tsMs shift : Nat) : UInt8 := UInt8.ofNat (tsMs >>> shift &&& 0xFF)

/-- The random bytes, with the time, the version and the variant written over them. -/
def stamp (tsMs : Nat) (random : List UInt8) : List UInt8 :=
  let bytes := random.set 0 (byteAt tsMs 40)
  let bytes := bytes.set 1 (byteAt tsMs 32)
  let bytes := bytes.set 2 (byteAt tsMs 24)
  let bytes := bytes.set 3 (byteAt tsMs 16)
  let bytes := bytes.set 4 (byteAt tsMs 8)
  let bytes := bytes.set 5 (byteAt tsMs 0)
  let bytes := bytes.modify 6 fun byte => byte &&& 0x0F ||| 0x70
  bytes.modify 8 fun byte => byte &&& 0x3F ||| 0x80

/-- `f"{h[:8]}-{h[8:12]}-{h[12:16]}-{h[16:20]}-{h[20:]}"`. -/
def dashed (h : Str) : Str :=
  h.take 8 ++ '-' :: ((h.drop 8).take 4 ++ '-' :: ((h.drop 12).take 4 ++ '-' ::
    ((h.drop 16).take 4 ++ '-' :: h.drop 20)))

def uuidText (tsMs : Nat) (random : List UInt8) : Str := dashed (hex (stamp tsMs random))

/-- `uuid7`: the last time of the process after the call, and the id. -/
def uuid7 (last : Nat) (call : Draw) : Nat × Str :=
  (nextTimestamp last call.reading, uuidText (nextTimestamp last call.reading) call.random)

/-- The ids of calls, in the order in which they take the lock. -/
def uuid7s (last : Nat) : List Draw → List Str
  | [] => []
  | call :: calls => (uuid7 last call).2 :: uuid7s (uuid7 last call).1 calls

def uuidNumber (id : Str) : Nat := hexNumber (id.filter (· ≠ '-'))

def first48 (id : Str) : Nat := uuidNumber id / 2 ^ 80

def version (id : Str) : Nat := uuidNumber id / 2 ^ 76 % 16

def variant (id : Str) : Nat := uuidNumber id / 2 ^ 62 % 4

theorem hexChar_ne_dash {n : Nat} (small : n < 16) : Nat.digitChar n ≠ '-' := by
  have digits : ∀ n : Fin 16, Nat.digitChar n ≠ '-' := by decide
  exact digits ⟨n, small⟩

theorem no_dash (bytes : List UInt8) : ∀ c ∈ hex bytes, c ≠ '-' := by
  intro c member
  obtain ⟨byte, -, digit⟩ := List.mem_flatMap.mp member
  obtain ⟨high, low⟩ := toNat_halves byte
  simp only [hexByte, List.mem_cons, List.not_mem_nil, or_false] at digit
  cases digit with
  | inl first => exact first ▸ hexChar_ne_dash high
  | inr second => exact second ▸ hexChar_ne_dash low

theorem uuidNumber_dashed (bytes : List UInt8) :
    uuidNumber (dashed (hex bytes)) = bytesNumber bytes := by
  have kept : ∀ part : Str, part ⊆ hex bytes → part.filter (· ≠ '-') = part := by
    intro part within
    rw [List.filter_eq_self]
    intro c member
    simpa using no_dash bytes c (within member)
  have whole : (dashed (hex bytes)).filter (· ≠ '-') = hex bytes := by
    have slice : ∀ n, ((hex bytes).drop n).take 4 ++ (hex bytes).drop (n + 4) = (hex bytes).drop n := by
      intro n
      rw [← List.drop_drop, List.take_append_drop]
    have within : ∀ n, ((hex bytes).drop n).take 4 ⊆ hex bytes := fun n =>
      ((List.take_sublist _ _).trans (List.drop_sublist _ _)).subset
    simp only [dashed, List.filter_append, List.filter_cons]
    rw [kept _ (List.take_subset _ _), kept _ (within 8), kept _ (within 12), kept _ (within 16),
      kept _ (List.drop_subset _ _)]
    simp [slice, List.take_append_drop]
  rw [uuidNumber, whole, hexNumber_hex]

/-! ## The bytes of an id -/

section

variable {tsMs : Nat} {random : List UInt8}

theorem toNat_byteAt (tsMs shift : Nat) : (byteAt tsMs shift).toNat = tsMs / 2 ^ shift % 256 := by
  have low : tsMs >>> shift &&& 0xFF = tsMs / 2 ^ shift % 256 := by
    rw [Nat.shiftRight_eq_div_pow]
    exact Nat.and_two_pow_sub_one_eq_mod _ 8
  rw [byteAt, low]
  simp

/-- The first four bytes of a time, and the next two. -/
def highBytes (tsMs : Nat) : List UInt8 :=
  [byteAt tsMs 40, byteAt tsMs 32, byteAt tsMs 24, byteAt tsMs 16]

def lowBytes (tsMs : Nat) : List UInt8 := [byteAt tsMs 8, byteAt tsMs 0]

theorem bytesNumber_highBytes (small : tsMs < 2 ^ 48) :
    bytesNumber (highBytes tsMs) = tsMs / 2 ^ 16 := by
  simp only [highBytes, bytesNumber, toNat_byteAt, List.length_cons, List.length_nil]
  omega

theorem bytesNumber_lowBytes (tsMs : Nat) : bytesNumber (lowBytes tsMs) = tsMs % 2 ^ 16 := by
  simp only [lowBytes, bytesNumber, toNat_byteAt, List.length_cons, List.length_nil]
  omega

theorem exists_cons_length {n : Nat} {bytes : List UInt8} (length : bytes.length = n + 1) :
    ∃ byte rest, bytes = byte :: rest ∧ rest.length = n := by
  obtain ⟨byte, rest, rfl⟩ := List.exists_cons_of_length_eq_add_one length
  exact ⟨byte, rest, rfl, by simpa using length⟩

theorem stamp_eq (tsMs : Nat) (drawn : random.length = 16) : ∃ versioned between varied rest,
    stamp tsMs random = highBytes tsMs ++ (lowBytes tsMs ++
      (versioned &&& 0x0F ||| 0x70) :: between :: (varied &&& 0x3F ||| 0x80) :: rest) ∧
    rest.length = 7 := by
  obtain ⟨b0, tail0, rfl, fifteen⟩ := exists_cons_length drawn
  obtain ⟨b1, tail1, rfl, fourteen⟩ := exists_cons_length fifteen
  obtain ⟨b2, tail2, rfl, thirteen⟩ := exists_cons_length fourteen
  obtain ⟨b3, tail3, rfl, twelve⟩ := exists_cons_length thirteen
  obtain ⟨b4, tail4, rfl, eleven⟩ := exists_cons_length twelve
  obtain ⟨b5, tail5, rfl, ten⟩ := exists_cons_length eleven
  obtain ⟨b6, tail6, rfl, nine⟩ := exists_cons_length ten
  obtain ⟨b7, tail7, rfl, eight⟩ := exists_cons_length nine
  obtain ⟨b8, tail8, rfl, seven⟩ := exists_cons_length eight
  exact ⟨b6, b7, b8, tail8, rfl, seven⟩

theorem toNat_versioned (byte : UInt8) : (byte &&& 0x0F ||| 0x70).toNat / 16 = 7 := by
  have bytes : ∀ n : Fin 256, (n.val &&& 15 ||| 112) / 16 = 7 := by decide +kernel
  simpa using bytes ⟨byte.toNat, byte.toNat_lt⟩

theorem toNat_varied (byte : UInt8) : (byte &&& 0x3F ||| 0x80).toNat / 64 = 2 := by
  have bytes : ∀ n : Fin 256, (n.val &&& 63 ||| 128) / 64 = 2 := by decide +kernel
  simpa using bytes ⟨byte.toNat, byte.toNat_lt⟩

/-- An id begins with its time, and has the version and the variant set. -/
theorem uuidText_parts (small : tsMs < 2 ^ 48) (drawn : random.length = 16) :
    first48 (uuidText tsMs random) = tsMs ∧ version (uuidText tsMs random) = 7 ∧
      variant (uuidText tsMs random) = 2 := by
  obtain ⟨versioned, between, varied, rest, stamped, length⟩ := stamp_eq tsMs drawn
  have seven := toNat_versioned versioned
  have two := toNat_varied varied
  have byte := (versioned &&& 0x0F ||| 0x70).toNat_lt
  have middle := between.toNat_lt
  have byte' := (varied &&& 0x3F ||| 0x80).toNat_lt
  have tail := bytesNumber_lt rest
  have high := bytesNumber_highBytes small
  have low := bytesNumber_lowBytes tsMs
  have number : uuidNumber (uuidText tsMs random) = tsMs * 2 ^ 80 +
      (versioned &&& 0x0F ||| 0x70).toNat * 2 ^ 72 + between.toNat * 2 ^ 64 +
      (varied &&& 0x3F ||| 0x80).toNat * 2 ^ 56 + bytesNumber rest := by
    rw [uuidText, uuidNumber_dashed, stamped, bytesNumber_append, bytesNumber_append, high, low]
    simp only [bytesNumber, List.length_append, List.length_cons, length, lowBytes, List.length_nil]
    omega
  rw [length] at tail
  rw [first48, version, variant, number]
  omega

theorem dashed_hex {high low : List UInt8} (more : List UInt8) (four : high.length = 4)
    (two : low.length = 2) : ∃ rest,
      dashed (hex (high ++ (low ++ more))) = hex high ++ '-' :: (hex low ++ '-' :: rest) := by
  have eight : (hex high).length = 8 := by rw [length_hex, four]
  have next : (hex low).length = 4 := by rw [length_hex, two]
  have first : (hex (high ++ (low ++ more))).take 8 = hex high := by
    rw [hex_append, List.take_left' eight]
  have second : ((hex (high ++ (low ++ more))).drop 8).take 4 = hex low := by
    rw [hex_append, List.drop_left' eight, hex_append, List.take_left' next]
  rw [dashed, first, second]
  exact ⟨_, rfl⟩

theorem uuidText_lt {ts ts' : Nat} {random random' : List UInt8} (later : ts < ts')
    (small : ts' < 2 ^ 48) (drawn : random.length = 16) (drawn' : random'.length = 16) :
    uuidText ts random < uuidText ts' random' := by
  obtain ⟨versioned, between, varied, rest, stamped, -⟩ := stamp_eq ts drawn
  obtain ⟨versioned', between', varied', rest', stamped', -⟩ := stamp_eq ts' drawn'
  have high := bytesNumber_highBytes (later.trans small)
  have high' := bytesNumber_highBytes small
  have low := bytesNumber_lowBytes ts
  have low' := bytesNumber_lowBytes ts'
  obtain ⟨text, parts⟩ := dashed_hex _ (show (highBytes ts).length = 4 from rfl)
    (show (lowBytes ts).length = 2 from rfl)
  obtain ⟨text', parts'⟩ := dashed_hex _ (show (highBytes ts').length = 4 from rfl)
    (show (lowBytes ts').length = 2 from rfl)
  have four : (highBytes ts).length = (highBytes ts').length := rfl
  have two : (lowBytes ts).length = (lowBytes ts').length := rfl
  rw [uuidText, uuidText, stamped, stamped', parts, parts', hex_append_lt four, high, high',
    List.cons_lt_cons_iff, hex_append_lt two, low, low']
  by_cases first : ts / 2 ^ 16 < ts' / 2 ^ 16
  · exact .inl first
  · exact .inr ⟨by omega, .inr ⟨rfl, .inl (by omega)⟩⟩

end

/-! ## The ids of a process -/

section

variable {last : Nat} {calls : List Draw}

theorem last_lt_nextTimestamp (last : Nat) (reading : Int) : last < nextTimestamp last reading := by
  rw [nextTimestamp]
  split
  · omega
  · omega

/-- An id with a time after the last one, which fits. -/
def Issued (last : Nat) (id : Str) : Prop :=
  ∃ ts random, last < ts ∧ ts < 2 ^ 48 ∧ random.length = 16 ∧ id = uuidText ts random

/-- Neither the last time nor a reading leaves the calls without room. -/
structure Bounded (last : Nat) (calls : List Draw) : Prop where
  last : last + calls.length < 2 ^ 48
  readings : ∀ call ∈ calls, call.reading.toNat + calls.length < 2 ^ 48

theorem Bounded.step {call : Draw} (bounded : Bounded last (call :: calls)) :
    nextTimestamp last call.reading < 2 ^ 48 ∧ Bounded (nextTimestamp last call.reading) calls := by
  have before := bounded.last
  have reading := bounded.readings call List.mem_cons_self
  rw [List.length_cons] at before reading
  have room : nextTimestamp last call.reading + calls.length < 2 ^ 48 := by
    rw [nextTimestamp]
    split
    · omega
    · omega
  refine ⟨by omega, room, ?_⟩
  intro other member
  have := bounded.readings other (List.mem_cons_of_mem _ member)
  rw [List.length_cons] at this
  omega

theorem uuid7s_issued (bounded : Bounded last calls) :
    (∀ id ∈ uuid7s last calls, Issued last id) ∧
      (uuid7s last calls).Pairwise fun id id' => id < id' ∧ first48 id < first48 id' := by
  induction calls generalizing last with
  | nil => simp [uuid7s]
  | cons call calls inductionHypothesis =>
    obtain ⟨small, rest⟩ := bounded.step
    have after := last_lt_nextTimestamp last call.reading
    obtain ⟨issued, increasing⟩ := inductionHypothesis rest
    rw [uuid7s, uuid7, List.pairwise_cons]
    refine ⟨?_, ?_, increasing⟩
    · intro id member
      rw [List.mem_cons] at member
      cases member with
      | inl head => exact ⟨_, _, after, small, call.drawn, head⟩
      | inr tail =>
        obtain ⟨ts, random, later, its⟩ := issued id tail
        exact ⟨ts, random, after.trans later, its⟩
    · intro id member
      obtain ⟨ts, random, later, fits, drawn, rfl⟩ := issued id member
      refine ⟨uuidText_lt later fits call.drawn drawn, ?_⟩
      rw [(uuidText_parts small call.drawn).1, (uuidText_parts fits drawn).1]
      exact later

end

/-- The ids of a process increase, from the start of the process on. -/
theorem event_ids_increase (calls : List Draw)
    (bounded : ∀ call ∈ calls, call.reading.toNat + calls.length < 2 ^ 48) :
    ((uuid7s 0 calls).map first48).Pairwise (· < ·) ∧ (uuid7s 0 calls).Pairwise (· < ·) ∧
      (uuid7s 0 calls).Nodup ∧ ∀ id ∈ uuid7s 0 calls, version id = 7 ∧ variant id = 2 := by
  have room : Bounded 0 calls := by
    refine ⟨?_, bounded⟩
    cases calls with
    | nil => simp
    | cons call calls =>
      have := bounded call List.mem_cons_self
      omega
  obtain ⟨issued, increasing⟩ := uuid7s_issued room
  refine ⟨?_, increasing.imp And.left, ?_, ?_⟩
  · rw [List.pairwise_map]
    exact increasing.imp And.right
  · exact increasing.imp fun ordered => ordered.1.ne
  · intro id member
    obtain ⟨ts, random, -, small, drawn, rfl⟩ := issued id member
    exact (uuidText_parts small drawn).2

/-- A clock that stands still, and then goes back. -/
def stalledClock : List Draw :=
  [1700000000000, 1700000000000, 1699999999000].map fun reading =>
    { reading, random := List.replicate 16 0, drawn := rfl }

theorem stalled_clock_increases :
    (∀ call ∈ stalledClock, call.reading.toNat + stalledClock.length < 2 ^ 48) ∧
      ((uuid7s 0 stalledClock).map first48).Pairwise (· < ·) ∧
      (uuid7s 0 stalledClock).Pairwise (· < ·) ∧ (uuid7s 0 stalledClock).Nodup ∧
      ∀ id ∈ uuid7s 0 stalledClock, version id = 7 ∧ variant id = 2 := by
  have bounded : ∀ call ∈ stalledClock, call.reading.toNat + stalledClock.length < 2 ^ 48 := by
    simp [stalledClock]
  exact ⟨bounded, event_ids_increase stalledClock bounded⟩

end BurnLens.Storage
