import BurnLens.Library.Json
import Mathlib.Data.List.Forall2

/-! # Readers of entries

A reader goes over entries with a state; an entry makes it raise, is passed over, or gives a
record.  Some entries are corrupt.  `Tolerance` states what a reader does with an entry, well
formed or not, beside the same reader over the well-formed entries alone, and in which states an
entry is harmless to it; from these laws, `matches_iff` is the only induction over the entries:
the two give the same records exactly if every entry is harmless.
-/

namespace BurnLens.Library

structure EntryReader (σ ε β : Type) where
  step : σ → ε → σ × Except PyError (Option β)
  wellFormed : ε → Bool

/-- The items that an iterator gives for an entry. -/
def emitted {β : Type} : Except PyError (Option β) → List (Except PyError β)
  | .ok none => []
  | .ok (some b) => [.ok b]
  | .error error => [.error error]

namespace EntryReader

variable {σ ε β : Type} (reader : EntryReader σ ε β)

def run : σ → List ε → List (Except PyError β)
  | _, [] => []
  | s, e :: es => emitted (reader.step s e).2 ++ run (reader.step s e).1 es

def sound (es : List ε) : List ε := es.filter reader.wellFormed

theorem sound_cons_of_wellFormed {e : ε} (wellFormed : reader.wellFormed e = true) (es : List ε) :
    reader.sound (e :: es) = e :: reader.sound es :=
  List.filter_cons_of_pos wellFormed

theorem sound_cons_of_corrupt {e : ε} (corrupt : reader.wellFormed e = false) (es : List ε) :
    reader.sound (e :: es) = reader.sound es :=
  List.filter_cons_of_neg (by rw [corrupt]; exact Bool.false_ne_true)

/-- The same reader, over what the entries are decoded from: where there is no entry, only what is
    blank is none that is corrupt. -/
def decoding {δ : Type} (decode : δ → Except PyError (Option ε)) (blank : δ → Bool) :
    EntryReader σ δ β where
  step s d :=
    match decode d with
    | .error error => (s, .error error)
    | .ok none => (s, .ok none)
    | .ok (some e) => reader.step s e
  wellFormed d :=
    match decode d with
    | .error _ => false
    | .ok none => blank d
    | .ok (some e) => reader.wellFormed e

variable {reader} {s : σ} {e : ε} {b : β}

theorem run_cons_none (none : (reader.step s e).2 = .ok none) (es : List ε) :
    reader.run s (e :: es) = reader.run (reader.step s e).1 es := by
  rw [run, none]
  rfl

theorem run_cons_some (some : (reader.step s e).2 = .ok (some b)) (es : List ε) :
    reader.run s (e :: es) = .ok b :: reader.run (reader.step s e).1 es := by
  rw [run, some]
  rfl

theorem run_cons_error {error : PyError} (raises : (reader.step s e).2 = .error error)
    (es : List ε) : reader.run s (e :: es) = .error error :: reader.run (reader.step s e).1 es := by
  rw [run, raises]
  rfl

end EntryReader

/-- What a reader does in the state `s`, in which it has read all entries, beside what it does in
    the state `c`, in which it has read the well-formed ones. -/
structure Tolerance {σ ε β : Type} (reader : EntryReader σ ε β) where
  harmless : σ → σ → ε → Prop
  -- the records that both are to give for an entry
  same : β → β → Prop
  fits : β → Prop
  -- the records that well-formed entries give
  native : β → Prop
  agree : σ → σ → Prop
  -- `s` passes over no well-formed entry that `c` has a record of
  covers : σ → σ → Prop
  covers_of_agree : ∀ {s c}, agree s c → covers s c
  kept : ∀ {s c e}, agree s c → harmless s c e → reader.wellFormed e = true →
    ((reader.step s e).2 = .ok none ∧ (reader.step c e).2 = .ok none ∨
      ∃ b b', (reader.step s e).2 = .ok (some b) ∧ (reader.step c e).2 = .ok (some b') ∧
        same b b' ∧ fits b) ∧
      agree (reader.step s e).1 (reader.step c e).1
  passed : ∀ {s c e}, agree s c → harmless s c e → reader.wellFormed e = false →
    (reader.step s e).2 = .ok none ∧ agree (reader.step s e).1 c
  -- an entry that is not harmless makes the reader raise, or gives a record that is not to be
  caught : ∀ {s c e}, agree s c → ¬ harmless s c e →
    (∃ error, (reader.step s e).2 = .error error) ∨
      ∃ b, (reader.step s e).2 = .ok (some b) ∧ (fits b → reader.wellFormed e = true →
        (∃ b', (reader.step c e).2 = .ok (some b') ∧ ¬ same b b') ∨ ∀ b', native b' → ¬ same b b')
  gives : ∀ {s c e b'}, covers s c → reader.wellFormed e = true →
    (reader.step c e).2 = .ok (some b') →
      native b' ∧ (reader.step s e).2 ≠ .ok none
  onward : ∀ {s c e}, covers s c → reader.wellFormed e = true →
    covers (reader.step s e).1 (reader.step c e).1
  apart : ∀ {s c e}, covers s c → reader.wellFormed e = false → covers (reader.step s e).1 c

namespace Tolerance

variable {σ ε β : Type} {reader : EntryReader σ ε β} (tolerance : Tolerance reader)

/-- Every entry is harmless in the states in which it is read. -/
def Confined : σ → σ → List ε → Prop
  | _, _, [] => True
  | s, c, e :: es => tolerance.harmless s c e ∧
      Confined (reader.step s e).1 (if reader.wellFormed e then (reader.step c e).1 else c) es

def Matches (item item' : Except PyError β) : Prop :=
  ∃ b b', item = .ok b ∧ item' = .ok b' ∧ tolerance.same b b' ∧ tolerance.fits b

variable {tolerance} {s c : σ} {es : List ε}

def AllOk (items : List (Except PyError β)) : Prop := ∀ item ∈ items, ∃ b, item = .ok b

theorem allOk_of_matches {items items' : List (Except PyError β)}
    (matched : List.Forall₂ tolerance.Matches items items') : AllOk items ∧ AllOk items' := by
  induction matched with
  | nil => exact ⟨fun _ member => absurd member List.not_mem_nil,
      fun _ member => absurd member List.not_mem_nil⟩
  | cons head _ inductionHypothesis =>
    obtain ⟨b, b', rfl, rfl, -, -⟩ := head
    constructor
    · intro item member
      obtain rfl | later := List.mem_cons.mp member
      · exact ⟨b, rfl⟩
      · exact inductionHypothesis.1 item later
    · intro item member
      obtain rfl | later := List.mem_cons.mp member
      · exact ⟨b', rfl⟩
      · exact inductionHypothesis.2 item later

/-- Without exceptions, the well-formed entries alone give no more records than all entries. -/
theorem length_sound_le (covers : tolerance.covers s c) (all : AllOk (reader.run s es))
    (alone : AllOk (reader.run c (reader.sound es))) :
    (reader.run c (reader.sound es)).length ≤ (reader.run s es).length := by
  induction es generalizing s c with
  | nil => exact le_refl _
  | cons e es inductionHypothesis =>
    have longer : (reader.run (reader.step s e).1 es).length ≤ (reader.run s (e :: es)).length := by
      rw [EntryReader.run, List.length_append]
      exact Nat.le_add_left ..
    have later : AllOk (reader.run (reader.step s e).1 es) :=
      fun item member => all item (List.mem_append_right _ member)
    cases wellFormed : reader.wellFormed e with
    | false =>
      rw [reader.sound_cons_of_corrupt wellFormed] at alone ⊢
      exact (inductionHypothesis (tolerance.apart covers wellFormed) later alone).trans longer
    | true =>
      rw [reader.sound_cons_of_wellFormed wellFormed] at alone ⊢
      have laterAlone : AllOk (reader.run (reader.step c e).1 (reader.sound es)) :=
        fun item member => alone item (List.mem_append_right _ member)
      have shorter := inductionHypothesis (tolerance.onward covers wellFormed) later laterAlone
      cases read : (reader.step c e).2 with
      | error error =>
        obtain ⟨b, never⟩ := alone (.error error) (by rw [EntryReader.run_cons_error read]; exact .head _)
        cases never
      | ok found =>
        cases found with
        | none =>
          rw [EntryReader.run_cons_none read]
          exact shorter.trans longer
        | some b' =>
          rw [EntryReader.run_cons_some read, List.length_cons]
          have reads := (tolerance.gives covers wellFormed read).2
          cases full : (reader.step s e).2 with
          | error error =>
            obtain ⟨b, never⟩ :=
              all (.error error) (by rw [EntryReader.run_cons_error full]; exact .head _)
            cases never
          | ok found =>
            cases found with
            | none => exact absurd full reads
            | some b =>
              rw [EntryReader.run_cons_some full, List.length_cons]
              exact Nat.succ_le_succ shorter

theorem native_of_mem (covers : tolerance.covers s c) {b' : β}
    (member : .ok b' ∈ reader.run c (reader.sound es)) : tolerance.native b' := by
  induction es generalizing s c with
  | nil => exact absurd member List.not_mem_nil
  | cons e es inductionHypothesis =>
    cases wellFormed : reader.wellFormed e with
    | false =>
      rw [reader.sound_cons_of_corrupt wellFormed] at member
      exact inductionHypothesis (tolerance.apart covers wellFormed) member
    | true =>
      rw [reader.sound_cons_of_wellFormed wellFormed] at member
      obtain here | later := List.mem_append.mp member
      · cases read : (reader.step c e).2 with
        | error error =>
          rw [read] at here
          cases List.mem_singleton.mp here
        | ok found =>
          cases found with
          | none =>
            rw [read] at here
            exact absurd here List.not_mem_nil
          | some b =>
            rw [read] at here
            cases List.mem_singleton.mp here
            exact (tolerance.gives covers wellFormed read).1
      · exact inductionHypothesis (tolerance.onward covers wellFormed) later

theorem not_matches_of_caught {e : ε} (agree : tolerance.agree s c)
    (harmful : ¬ tolerance.harmless s c e) :
    ¬ List.Forall₂ tolerance.Matches (reader.run s (e :: es)) (reader.run c (reader.sound (e :: es))) := by
  intro matched
  obtain ⟨all, alone⟩ := allOk_of_matches matched
  obtain ⟨error, raises⟩ | ⟨b, read, wrong⟩ := tolerance.caught agree harmful
  · obtain ⟨b, never⟩ :=
      all (.error error) (by rw [EntryReader.run_cons_error raises]; exact .head _)
    cases never
  · have covers := tolerance.covers_of_agree agree
    rw [EntryReader.run_cons_some read] at matched all
    have later : AllOk (reader.run (reader.step s e).1 es) := fun item member => all item (.tail _ member)
    cases wellFormed : reader.wellFormed e with
    | false =>
      rw [reader.sound_cons_of_corrupt wellFormed] at matched alone
      have lengths := matched.length_eq
      rw [List.length_cons] at lengths
      have fewer := length_sound_le (tolerance.apart covers wellFormed) later alone
      omega
    | true =>
      cases matched' : reader.run c (reader.sound (e :: es)) with
      | nil =>
        rw [matched'] at matched
        cases matched
      | cons item items =>
        rw [matched'] at matched
        obtain ⟨⟨b₁, b', same₁, rfl, same, fits⟩, -⟩ := List.forall₂_cons.mp matched
        cases same₁
        obtain ⟨b'', alone', other⟩ | foreign := wrong fits wellFormed
        · rw [reader.sound_cons_of_wellFormed wellFormed, EntryReader.run_cons_some alone'] at matched'
          cases matched'
          exact other same
        · have native : tolerance.native b' :=
            @native_of_mem _ _ _ _ _ s c (e :: es) covers _ (by rw [matched']; exact .head _)
          exact foreign b' native same

/-- The corrupt entries change nothing if and only if they are harmless: induction on the
    entries, the two states agreeing as long as every entry has been harmless. -/
theorem matches_iff (agree : tolerance.agree s c) :
    List.Forall₂ tolerance.Matches (reader.run s es) (reader.run c (reader.sound es)) ↔
      tolerance.Confined s c es := by
  induction es generalizing s c with
  | nil => exact iff_of_true .nil trivial
  | cons e es inductionHypothesis =>
    by_cases harmless : tolerance.harmless s c e
    · rw [Confined, and_iff_right harmless]
      cases wellFormed : reader.wellFormed e with
      | false =>
        obtain ⟨none, agrees⟩ := tolerance.passed agree harmless wellFormed
        rw [reader.sound_cons_of_corrupt wellFormed, EntryReader.run_cons_none none,
          if_neg Bool.false_ne_true]
        exact inductionHypothesis agrees
      | true =>
        obtain ⟨⟨none, none'⟩ | ⟨b, b', read, read', same, fits⟩, agrees⟩ :=
          tolerance.kept agree harmless wellFormed
        · rw [reader.sound_cons_of_wellFormed wellFormed, EntryReader.run_cons_none none,
            EntryReader.run_cons_none none', if_pos rfl]
          exact inductionHypothesis agrees
        · rw [reader.sound_cons_of_wellFormed wellFormed, EntryReader.run_cons_some read,
            EntryReader.run_cons_some read', if_pos rfl, List.forall₂_cons]
          have matched : tolerance.Matches (.ok b) (.ok b') := ⟨b, b', rfl, rfl, same, fits⟩
          rw [and_iff_right matched]
          exact inductionHypothesis agrees
    · exact iff_of_false (not_matches_of_caught agree harmless) fun confined => harmless confined.1

/-- Where an entry that gives no record leaves the state, both are in the same state as long as
    every entry has been harmless, and the records are to be equal. -/
def exact (harmless : σ → ε → Prop) (fits native : β → Prop)
    (kept : ∀ {s e}, harmless s e → reader.wellFormed e = true →
      (reader.step s e).2 = .ok none ∨ ∃ b, (reader.step s e).2 = .ok (some b) ∧ fits b)
    (passed : ∀ {s e}, harmless s e → reader.wellFormed e = false → reader.step s e = (s, .ok none))
    (caught : ∀ {s e}, ¬ harmless s e → (∃ error, (reader.step s e).2 = .error error) ∨
      ∃ b, (reader.step s e).2 = .ok (some b) ∧ (fits b → reader.wellFormed e = false))
    (gives : ∀ {s c e b'}, reader.wellFormed e = true → (reader.step c e).2 = .ok (some b') →
      native b' ∧ (reader.step s e).2 ≠ .ok none) : Tolerance reader where
  harmless s _ := harmless s
  same := Eq
  fits := fits
  native := native
  agree := Eq
  covers _ _ := True
  covers_of_agree _ := trivial
  kept := by
    rintro s c e rfl isHarmless wellFormed
    refine ⟨?_, rfl⟩
    obtain none | ⟨b, read, fit⟩ := kept isHarmless wellFormed
    · exact .inl ⟨none, none⟩
    · exact .inr ⟨b, b, read, read, rfl, fit⟩
  passed := by
    rintro s c e rfl isHarmless corrupt
    rw [passed isHarmless corrupt]
    exact ⟨rfl, rfl⟩
  caught := by
    rintro s c e rfl harmful
    obtain raises | ⟨b, read, wrong⟩ := caught harmful
    · exact .inl raises
    · refine .inr ⟨b, read, fun fit wellFormed => ?_⟩
      rw [wrong fit] at wellFormed
      cases wellFormed
  gives _ wellFormed given := gives wellFormed given
  onward _ _ := trivial
  apart _ _ := trivial

/-! ## Decoding -/

section

variable {δ : Type} (decode : δ → Except PyError (Option ε)) (blank : δ → Bool)

/-- What raises in decoding is not harmless, and what is no entry is. -/
def decodes (harmless : ε → Prop) : Except PyError (Option ε) → Prop
  | .error _ => False
  | .ok none => True
  | .ok (some e) => harmless e

theorem decoding_error {d : δ} {error : PyError} (raises : decode d = .error error) (s : σ) :
    (reader.decoding decode blank).step s d = (s, .error error) ∧
      (reader.decoding decode blank).wellFormed d = false := by
  constructor
  · simp only [EntryReader.decoding, raises]
  · simp only [EntryReader.decoding, raises]

theorem decoding_none {d : δ} (nothing : decode d = .ok none) (s : σ) :
    (reader.decoding decode blank).step s d = (s, .ok none) := by
  simp only [EntryReader.decoding, nothing]

theorem decoding_some {d : δ} {e : ε} (decoded : decode d = .ok (some e)) (s : σ) :
    (reader.decoding decode blank).step s d = reader.step s e ∧
      (reader.decoding decode blank).wellFormed d = reader.wellFormed e := by
  constructor
  · simp only [EntryReader.decoding, decoded]
  · simp only [EntryReader.decoding, decoded]

/-- A tolerance carries over to the same reader over what the entries are decoded from. -/
def decoding (tolerance : Tolerance reader) : Tolerance (reader.decoding decode blank) where
  harmless s c d := decodes (tolerance.harmless s c) (decode d)
  same := tolerance.same
  fits := tolerance.fits
  native := tolerance.native
  agree := tolerance.agree
  covers := tolerance.covers
  covers_of_agree := tolerance.covers_of_agree
  kept := by
    intro s c d agree harmless wellFormed
    cases decoded : decode d with
    | error error =>
      rw [decoded] at harmless
      exact harmless.elim
    | ok found =>
      cases found with
      | none =>
        rw [decoding_none decode blank decoded, decoding_none decode blank decoded]
        exact ⟨.inl ⟨rfl, rfl⟩, agree⟩
      | some e =>
        rw [decoded] at harmless
        obtain ⟨reads, same⟩ := decoding_some decode blank decoded s
        rw [reads, (decoding_some decode blank decoded c).1]
        exact tolerance.kept agree harmless (same ▸ wellFormed)
  passed := by
    intro s c d agree harmless corrupt
    cases decoded : decode d with
    | error error =>
      rw [decoded] at harmless
      exact harmless.elim
    | ok found =>
      cases found with
      | none =>
        rw [decoding_none decode blank decoded]
        exact ⟨rfl, agree⟩
      | some e =>
        rw [decoded] at harmless
        obtain ⟨reads, same⟩ := decoding_some decode blank decoded s
        rw [reads]
        exact tolerance.passed agree harmless (same ▸ corrupt)
  caught := by
    intro s c d agree harmful
    cases decoded : decode d with
    | error error =>
      rw [(decoding_error decode blank decoded s).1]
      exact .inl ⟨error, rfl⟩
    | ok found =>
      rw [decoded] at harmful
      cases found with
      | none => exact absurd trivial harmful
      | some e =>
        obtain ⟨reads, same⟩ := decoding_some decode blank decoded s
        rw [reads, (decoding_some decode blank decoded c).1, same]
        exact tolerance.caught agree harmful
  gives := by
    intro s c d b' covers wellFormed given
    cases decoded : decode d with
    | error error =>
      rw [(decoding_error decode blank decoded c).1] at given
      cases given
    | ok found =>
      cases found with
      | none =>
        rw [decoding_none decode blank decoded] at given
        cases given
      | some e =>
        obtain ⟨reads, same⟩ := decoding_some decode blank decoded c
        rw [reads] at given
        rw [(decoding_some decode blank decoded s).1]
        exact tolerance.gives covers (same ▸ wellFormed) given
  onward := by
    intro s c d covers wellFormed
    cases decoded : decode d with
    | error error =>
      rw [(decoding_error decode blank decoded s).2] at wellFormed
      cases wellFormed
    | ok found =>
      cases found with
      | none =>
        rw [decoding_none decode blank decoded, decoding_none decode blank decoded]
        exact covers
      | some e =>
        obtain ⟨reads, same⟩ := decoding_some decode blank decoded s
        rw [reads, (decoding_some decode blank decoded c).1]
        exact tolerance.onward covers (same ▸ wellFormed)
  apart := by
    intro s c d covers corrupt
    cases decoded : decode d with
    | error error =>
      rw [(decoding_error decode blank decoded s).1]
      exact covers
    | ok found =>
      cases found with
      | none =>
        rw [decoding_none decode blank decoded]
        exact covers
      | some e =>
        obtain ⟨reads, same⟩ := decoding_some decode blank decoded s
        rw [reads]
        exact tolerance.apart covers (same ▸ corrupt)

end

end Tolerance

end BurnLens.Library
