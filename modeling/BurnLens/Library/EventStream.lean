import BurnLens.Library.Lines
import BurnLens.Library.Utf8

/-! # Event streams

The standard reading of a stream of server-sent events: lines end in CR LF, LF or CR, a blank line
ends an event, and the data of an event are the values of its `data` fields.
-/

namespace BurnLens.Library

/-- The lines of a stream, without one that is not ended. -/
def streamLines : Str → List Str
  | [] => []
  | '\r' :: '\n' :: s => [] :: streamLines s
  | c :: s =>
    if c = '\r' ∨ c = '\n' then [] :: streamLines s
    else
      match streamLines s with
      | [] => []
      | line :: lines => (c :: line) :: lines

def dropMark : Str → Str
  | c :: s => if c = '\uFEFF' then s else c :: s
  | [] => []

/-- The lines between blank ones, with those behind the last blank line. -/
def streamGroups (text : Str) : List (List Str) :=
  (streamLines (dropMark text)).splitOnP List.isEmpty

/-- An event that no blank line ends is discarded. -/
def streamEvents (text : Str) : List (List Str) := (streamGroups text).dropLast

def fieldName (line : Str) : Str := before ':' line

def dropSpace : Str → Str
  | ' ' :: s => s
  | s => s

def fieldValue (line : Str) : Str := dropSpace ((line.dropWhile (· ≠ ':')).drop 1)

def dataLines (event : List Str) : List Str := event.filter fun line => fieldName line = "data"

def eventData (event : List Str) : Str := List.intercalate ['\n'] ((dataLines event).map fieldValue)

structure StreamEnds (text : Str) : Prop where
  terminated : ∀ c, text.getLast? = some c → c = '\r' ∨ c = '\n'
  complete : (streamGroups text).getLast? = some []

/-! ## Lines of a stream -/

def lineEnds : List Str := [['\r', '\n'], ['\r'], ['\n']]

theorem streamLines_cases (s : Str) :
    (streamLines s = [] ∧ ∀ c ∈ s, ¬ (c = '\r' ∨ c = '\n')) ∨
      ∃ line ending rest, s = line ++ (ending ++ rest) ∧ ending ∈ lineEnds ∧
        streamLines s = line :: streamLines rest := by
  induction s using streamLines.induct with
  | case1 => exact .inl ⟨rfl, nofun⟩
  | case2 s => exact .inr ⟨[], ['\r', '\n'], s, rfl, .head _, rfl⟩
  | case3 c s notPair ends =>
    have step : streamLines (c :: s) = [] :: streamLines s := by
      rw [streamLines, if_pos ends]
      exact notPair
    obtain rfl | rfl := ends
    · exact .inr ⟨[], ['\r'], s, rfl, .tail _ (.head _), step⟩
    · exact .inr ⟨[], ['\n'], s, rfl, .tail _ (.tail _ (.head _)), step⟩
  | case4 c s notPair goes none inductionHypothesis =>
    have step : streamLines (c :: s) = [] := by
      rw [streamLines, if_neg goes, none]
      exact notPair
    obtain ⟨-, unended⟩ | ⟨line, ending, rest, -, -, split⟩ := inductionHypothesis
    · exact .inl ⟨step, List.forall_mem_cons.mpr ⟨goes, unended⟩⟩
    · rw [none] at split
      cases split
  | case5 c s notPair goes line lines found inductionHypothesis =>
    have step : streamLines (c :: s) = (c :: line) :: lines := by
      rw [streamLines, if_neg goes, found]
      exact notPair
    obtain ⟨none, -⟩ | ⟨line', ending, rest, same, listed, split⟩ := inductionHypothesis
    · rw [found] at none
      cases none
    · rw [found] at split
      cases split
      exact .inr ⟨c :: line, ending, rest, by rw [same, List.cons_append], listed, step⟩

theorem textLines_lineEnd {ending : Str} (listed : ending ∈ lineEnds) (line rest : Str) :
    textLines (line ++ (ending ++ rest)) = textLines line ++ textLines rest := by
  have newline : isLineBreak '\n' = true := by decide
  have carriage : isLineBreak '\r' = true := by decide
  simp only [lineEnds, List.mem_cons, List.not_mem_nil, or_false] at listed
  obtain rfl | rfl | rfl := listed
  · exact (textLines_append carriage line ('\n' :: rest)).trans
      (by rw [textLines_cons (isSpace_of_isLineBreak newline)])
  · exact textLines_append carriage line rest
  · exact textLines_append newline line rest

theorem textLines_streamLines {s : Str}
    (terminated : ∀ c, s.getLast? = some c → c = '\r' ∨ c = '\n') :
    textLines s = (streamLines s).flatMap textLines := by
  obtain ⟨none, unended⟩ | ⟨line, ending, rest, same, listed, split⟩ := streamLines_cases s
  · cases last : s.getLast? with
    | none =>
      rw [none, List.getLast?_eq_none_iff.mp last]
      rfl
    | some c => exact absurd (terminated c last) (unended c (List.mem_of_getLast? last))
  · have smaller : rest.length < s.length := by
      have filled : ∀ ending ∈ lineEnds, 0 < ending.length := by decide
      have positive := filled ending listed
      rw [same, List.length_append, List.length_append]
      omega
    have rest_terminated : ∀ c, rest.getLast? = some c → c = '\r' ∨ c = '\n' := by
      intro c last
      apply terminated c
      rw [same, ← List.append_assoc, List.getLast?_append, last, Option.some_or]
    rw [split, List.flatMap_cons, ← textLines_streamLines rest_terminated, same,
      textLines_lineEnd listed]
termination_by s.length

theorem terminated_of_mem_arrivals {s arrived : Str}
    (terminated : ∀ c, s.getLast? = some c → c = '\r' ∨ c = '\n') (arrives : arrived ∈ arrivals s) :
    ∀ c, arrived.getLast? = some c → c = '\r' ∨ c = '\n' := by
  intro c last
  cases ending : s.getLast? with
  | none =>
    rw [List.getLast?_eq_none_iff.mp ending, mem_arrivals_nil] at arrives
    rw [arrives] at last
    cases last
  | some d =>
    have ended := terminated d ending
    obtain ⟨front, rfl⟩ := List.getLast?_eq_some_iff.mp ending
    have single : arrivals [d] = [[d]] := by
      rcases ended with same | same <;> rw [same] <;> decide
    obtain ⟨before, -, back, kept, rfl⟩ := mem_arrivals_append.mp arrives
    rw [single, List.mem_singleton] at kept
    rw [kept, List.getLast?_concat] at last
    cases last
    exact ended

theorem flatMap_splitOnP {α β : Type} {p : α → Bool} {f : α → List β} {l : List α}
    (skipped : ∀ a ∈ l, p a = true → f a = []) :
    (l.splitOnP p).flatMap (fun part => part.flatMap f) = l.flatMap f := by
  induction l with
  | nil => rfl
  | cons a l inductionHypothesis =>
    rw [List.forall_mem_cons] at skipped
    rw [List.flatMap_cons, ← inductionHypothesis skipped.2, List.splitOnP_cons_eq_if_modifyHead]
    by_cases skip : p a = true
    · rw [if_pos skip, skipped.1 skip]
      rfl
    · obtain ⟨part, parts, split⟩ := List.exists_cons_of_ne_nil (List.splitOnP_ne_nil p l)
      rw [if_neg skip, split]
      simp only [List.modifyHead_cons, List.flatMap_cons, List.append_assoc]

theorem dropMark_of_head {text : Str} (noMark : text.head? ≠ some '\uFEFF') : dropMark text = text := by
  cases text with
  | nil => rfl
  | cons c text => exact if_neg fun mark => noMark (congrArg some mark)

theorem strip_dropSpace (s : Str) : strip (dropSpace s) = strip s := by
  unfold dropSpace
  split
  · exact (strip_cons (by decide) _).symm
  · rfl

theorem field_split {line : Str} (filled : strip (fieldValue line) ≠ []) :
    ∃ rest, line = fieldName line ++ ':' :: rest ∧ strip (fieldValue line) = strip rest := by
  have split : fieldName line ++ line.dropWhile (· ≠ ':') = line := List.takeWhile_append_dropWhile
  have stops := List.head?_dropWhile_not (· ≠ ':') line
  rw [fieldValue, strip_dropSpace] at filled ⊢
  cases tail : line.dropWhile (· ≠ ':') with
  | nil =>
    rw [tail] at filled
    exact absurd rfl filled
  | cons c rest =>
    rw [tail] at stops split
    have colon : c = ':' := by simpa using stops
    subst colon
    exact ⟨rest, split.symm, rfl⟩

end BurnLens.Library
