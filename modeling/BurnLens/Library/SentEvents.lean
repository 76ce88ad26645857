import BurnLens.Library.EventStream

/-! # Event streams as they are sent

A stream of events that have one line of data each, perhaps behind a line with their name.  The
standard reading gives the events back, whichever of the line ends the sender uses; a split at
blank lines does so for a line feed alone, and leaves the stream whole for the others.
-/

namespace BurnLens.Library

/-- Without a character that ends a line of a stream. -/
def Unbroken (s : Str) : Prop := ∀ c ∈ s, c ≠ '\r' ∧ c ≠ '\n'

instance (s : Str) : Decidable (Unbroken s) := List.decidableBAll (fun c => c ≠ '\r' ∧ c ≠ '\n') s

/-- `value` is what stands behind the colon of the data. -/
structure SentEvent where
  name : Option Str
  value : Str
  unbrokenName : ∀ label, name = some label → Unbroken label
  unbrokenValue : Unbroken value

def SentEvent.dataLine (event : SentEvent) : Str := "data:".toList ++ event.value

def SentEvent.nameLines (event : SentEvent) : List Str :=
  match event.name with
  | some label => ["event:".toList ++ label]
  | none => []

def SentEvent.lines (event : SentEvent) : List Str := event.nameLines ++ [event.dataLine]

structure SentStream where
  lineEnd : Str
  events : List SentEvent
  listed : lineEnd ∈ lineEnds

def ended (lineEnd : Str) (lines : List Str) : Str := lines.flatMap fun line => line ++ lineEnd

def sentLines (events : List SentEvent) : List Str := events.flatMap fun event => event.lines ++ [[]]

def SentStream.text (stream : SentStream) : Str := ended stream.lineEnd (sentLines stream.events)

/-! ## Lines -/

theorem Unbroken.append {s t : Str} (front : Unbroken s) (back : Unbroken t) : Unbroken (s ++ t) :=
  List.forall_mem_append.mpr ⟨front, back⟩

theorem SentEvent.unbroken_lines (event : SentEvent) : ∀ line ∈ event.lines, Unbroken line := by
  have data : Unbroken "data:".toList := by decide
  have label : Unbroken "event:".toList := by decide
  apply List.forall_mem_append.mpr ⟨?_, List.forall_mem_singleton.mpr (data.append event.unbrokenValue)⟩
  rw [nameLines]
  split
  · next name named =>
    exact List.forall_mem_singleton.mpr (label.append (event.unbrokenName name named))
  · exact List.forall_mem_nil _

theorem unbroken_sentLines (events : List SentEvent) : ∀ line ∈ sentLines events, Unbroken line := by
  intro line member
  obtain ⟨event, -, inside⟩ := List.mem_flatMap.mp member
  obtain listed | blank := List.mem_append.mp inside
  · exact event.unbroken_lines line listed
  · rw [List.mem_singleton.mp blank]
    exact List.forall_mem_nil _

/-- Where a line end does not begin with a line feed, no text that follows one does. -/
theorem head?_ended {lineEnd : Str} (listed : lineEnd ∈ lineEnds) (other : lineEnd ≠ ['\n'])
    {lines : List Str} (unbroken : ∀ line ∈ lines, Unbroken line) :
    (ended lineEnd lines).head? ≠ some '\n' := by
  have ending : ∀ lineEnd ∈ lineEnds, lineEnd ≠ ['\n'] → lineEnd.head? = some '\r' := by decide
  cases lines with
  | nil => exact Option.some_ne_none _ |>.symm
  | cons line lines =>
    rw [ended, List.flatMap_cons, List.append_assoc]
    cases line with
    | nil =>
      rw [List.nil_append, List.head?_append, ending lineEnd listed other, Option.some_or]
      decide
    | cons c line =>
      intro feed
      exact (unbroken _ (.head _) c (.head _)).2 (Option.some.inj feed)

theorem streamLines_lineEnd {lineEnd : Str} (listed : lineEnd ∈ lineEnds) {s : Str}
    (apart : lineEnd ≠ ['\n'] → s.head? ≠ some '\n') :
    streamLines (lineEnd ++ s) = [] :: streamLines s := by
  simp only [lineEnds, List.mem_cons, List.not_mem_nil, or_false] at listed
  obtain rfl | rfl | rfl := listed
  · rfl
  · have next : s.head? ≠ some '\n' := apart (by decide)
    rw [List.singleton_append, streamLines, if_pos (.inl rfl)]
    rintro rest - rfl
    exact next rfl
  · rfl

theorem streamLines_line {line : Str} (unbroken : Unbroken line) {s first : Str} {rest : List Str}
    (read : streamLines s = first :: rest) : streamLines (line ++ s) = (line ++ first) :: rest := by
  induction line with
  | nil => exact read
  | cons c line inductionHypothesis =>
    obtain ⟨plain, unbroken⟩ := List.forall_mem_cons.mp unbroken
    rw [List.cons_append, streamLines, if_neg (not_or.mpr plain), inductionHypothesis unbroken]
    · rfl
    · intro rest carriage
      exact (plain.1 carriage).elim

theorem streamLines_ended {lineEnd : Str} (listed : lineEnd ∈ lineEnds) {lines : List Str}
    (unbroken : ∀ line ∈ lines, Unbroken line) : streamLines (ended lineEnd lines) = lines := by
  induction lines with
  | nil => rfl
  | cons line lines inductionHypothesis =>
    obtain ⟨plain, unbroken⟩ := List.forall_mem_cons.mp unbroken
    have rest : streamLines (lineEnd ++ ended lineEnd lines) = [] :: lines := by
      rw [streamLines_lineEnd listed fun other => head?_ended listed other unbroken,
        inductionHypothesis unbroken]
    rw [ended, List.flatMap_cons, List.append_assoc]
    exact (streamLines_line plain rest).trans (by rw [List.append_nil])

/-! ## White space around fields -/

theorem strip_visible_append {field : Str} (visible : ∀ c ∈ field, isSpace c = false)
    (filled : field ≠ []) (s : Str) : ∃ rest trail, s = rest ++ trail ∧ (∀ c ∈ trail, isSpace c = true) ∧
      strip (field ++ s) = field ++ rest := by
  obtain ⟨lead, trail, leading, trailing, same⟩ := strip_surrounded (field ++ s)
  have noLead : lead = [] := by
    cases lead with
    | nil => rfl
    | cons c lead =>
      obtain ⟨d, field, rfl⟩ := List.exists_cons_of_ne_nil filled
      have first : d = c := (List.cons.inj same).1
      rw [first] at visible
      exact absurd (leading c (.head _)) (by rw [visible c (.head _)]; exact Bool.false_ne_true)
  rw [noLead, List.nil_append] at same
  have inside : field <+: strip (field ++ s) := by
    have whole : field <+: strip (field ++ s) ++ trail := same ▸ List.prefix_append field s
    obtain shorter | ⟨back, split⟩ :=
      List.prefix_or_prefix_of_prefix whole (List.prefix_append _ trail)
    · exact shorter
    · have tail : strip (field ++ s) ++ (back ++ s) = strip (field ++ s) ++ trail := by
        rw [← List.append_assoc, split]
        exact same
      have none : back = [] := by
        apply List.eq_nil_iff_forall_not_mem.mpr
        intro c member
        have space := trailing c (List.append_cancel_left tail ▸ List.mem_append_left s member)
        rw [visible c (split ▸ List.mem_append_right _ member)] at space
        exact Bool.false_ne_true space
      rw [none, List.append_nil] at split
      rw [split]
  obtain ⟨rest, split⟩ := inside
  rw [← split, List.append_assoc] at same
  exact ⟨rest, trail, List.append_cancel_left same, trailing, split.symm⟩

theorem strip_append_field {field : Str} (visible : ∀ c ∈ field, isSpace c = false)
    (filled : field ≠ []) (front s : Str) : ∃ lead rest, lead <:+ front ∧
      strip (front ++ (field ++ s)) = lead ++ (field ++ rest) := by
  obtain ⟨rest, trail, rfl, trailing, trimmed⟩ := strip_visible_append visible filled s
  induction front with
  | nil => exact ⟨[], rest, List.suffix_refl _, trimmed⟩
  | cons c front inductionHypothesis =>
    by_cases space : isSpace c = true
    · obtain ⟨lead, rest', suffix, same⟩ := inductionHypothesis
      exact ⟨lead, rest', suffix.trans (List.suffix_cons c front), (strip_cons space _).trans same⟩
    · have inner : strip (field ++ rest) = field ++ rest := by
        rw [← trimmed, strip_strip]
      have whole := strip_append (Bool.eq_false_iff.mpr space) front inner
        (List.append_ne_nil_of_left_ne_nil filled rest)
      refine ⟨c :: front, rest, List.suffix_refl _, ?_⟩
      rw [← whole, ← strip_append_spaces trailing (c :: front ++ (field ++ rest))]
      simp only [List.append_assoc, List.cons_append]

theorem splitOnP_sentLines (events : List SentEvent) :
    (sentLines events).splitOnP List.isEmpty = events.map SentEvent.lines ++ [[]] := by
  induction events with
  | nil => rfl
  | cons event events inductionHypothesis =>
    have filled : ∀ line ∈ event.lines, line.isEmpty = false := by
      refine List.forall_mem_append.mpr ⟨?_, List.forall_mem_singleton.mpr rfl⟩
      rw [SentEvent.nameLines]
      split
      · exact List.forall_mem_singleton.mpr rfl
      · exact List.forall_mem_nil _
    rw [sentLines, List.flatMap_cons, List.append_assoc, List.singleton_append,
      List.splitOnP_append_cons_of_forall_mem filled _ rfl]
    exact congrArg (event.lines :: ·) inductionHypothesis

theorem head?_text (stream : SentStream) : stream.text.head? ≠ some '\uFEFF' := by
  rw [SentStream.text, sentLines]
  cases stream.events with
  | nil => exact Option.some_ne_none _ |>.symm
  | cons event events =>
    rw [List.flatMap_cons, SentEvent.lines, SentEvent.nameLines]
    split <;> simp [ended, SentEvent.dataLine]

theorem streamEvents_text (stream : SentStream) :
    streamEvents stream.text = stream.events.map SentEvent.lines := by
  rw [streamEvents, streamGroups, dropMark_of_head (head?_text stream), SentStream.text,
    streamLines_ended stream.listed (unbroken_sentLines stream.events), splitOnP_sentLines,
    List.dropLast_concat]

/-! ## The split at blank lines -/

theorem splitBlank_ne_nil (s : Str) : splitBlank s ≠ [] := by
  obtain whole | ⟨piece, rest, -, split⟩ := splitBlank_cases s
  · rw [whole]
    exact List.cons_ne_nil _ _
  · rw [split]
    exact List.cons_ne_nil _ _

theorem splitBlank_cons {c : Char} {s : Str} (apart : c = '\n' → s.head? ≠ some '\n') :
    splitBlank (c :: s) = (splitBlank s).modifyHead (c :: ·) := by
  obtain ⟨piece, pieces, split⟩ := List.exists_cons_of_ne_nil (splitBlank_ne_nil s)
  rw [splitBlank, split]
  · rfl
  · rintro rest rfl rfl
    exact apart rfl rfl

theorem splitBlank_unbroken {line : Str} (unbroken : Unbroken line) (s : Str) :
    splitBlank (line ++ s) = (splitBlank s).modifyHead (line ++ ·) := by
  induction line with
  | nil => exact (List.modifyHead_id).symm ▸ rfl
  | cons c line inductionHypothesis =>
    obtain ⟨plain, unbroken⟩ := List.forall_mem_cons.mp unbroken
    rw [List.cons_append, splitBlank_cons fun feed => absurd feed plain.2, inductionHypothesis unbroken,
      List.modifyHead_modifyHead]
    rfl

/-- The lines of an event, as they stand between blank lines. -/
def SentEvent.block (event : SentEvent) : Str :=
  ended ['\n'] event.nameLines ++ event.dataLine

theorem splitBlank_event (event : SentEvent) (s : Str) :
    splitBlank (event.block ++ '\n' :: '\n' :: s) = event.block :: splitBlank s := by
  have data : splitBlank (event.dataLine ++ '\n' :: '\n' :: s) = event.dataLine :: splitBlank s := by
    have plain : Unbroken event.dataLine := event.unbroken_lines _ (List.mem_append_right _ (.head _))
    rw [splitBlank_unbroken plain, splitBlank, List.modifyHead_cons, List.append_nil]
  have named := event.unbroken_lines
  rw [SentEvent.lines] at named
  rw [SentEvent.block]
  cases names : event.nameLines with
  | nil => exact data
  | cons line lines =>
    have single : lines = [] := by
      rw [SentEvent.nameLines] at names
      split at names
      · exact (List.cons.inj names).2.symm
      · cases names
    subst single
    rw [names] at named
    have split : splitBlank ('\n' :: (event.dataLine ++ '\n' :: '\n' :: s)) =
        ('\n' :: event.dataLine) :: splitBlank s := by
      rw [splitBlank_cons, data, List.modifyHead_cons]
      intro feed
      rw [SentEvent.dataLine]
      simp
    have cut := splitBlank_unbroken (named line (.head _))
      ('\n' :: (event.dataLine ++ '\n' :: '\n' :: s))
    rw [split, List.modifyHead_cons] at cut
    simpa [ended] using cut

theorem splitBlank_feed (events : List SentEvent) :
    splitBlank (ended ['\n'] (sentLines events)) = events.map SentEvent.block ++ [[]] := by
  induction events with
  | nil => rfl
  | cons event events inductionHypothesis =>
    have front : ended ['\n'] (sentLines (event :: events)) =
        event.block ++ '\n' :: '\n' :: ended ['\n'] (sentLines events) := by
      simp [ended, sentLines, SentEvent.block, SentEvent.lines]
    rw [front, splitBlank_event, inductionHypothesis]
    rfl

theorem splitBlank_other {lineEnd : Str} (listed : lineEnd ∈ lineEnds) (other : lineEnd ≠ ['\n'])
    {lines : List Str} (unbroken : ∀ line ∈ lines, Unbroken line) :
    splitBlank (ended lineEnd lines) = [ended lineEnd lines] := by
  induction lines with
  | nil => rfl
  | cons line lines inductionHypothesis =>
    obtain ⟨plain, unbroken⟩ := List.forall_mem_cons.mp unbroken
    have carriage : '\r' ≠ '\n' := by decide
    have next := head?_ended listed other unbroken
    have rest : splitBlank (lineEnd ++ ended lineEnd lines) = [lineEnd ++ ended lineEnd lines] := by
      have whole := inductionHypothesis unbroken
      simp only [lineEnds, List.mem_cons, List.not_mem_nil, or_false] at listed
      obtain rfl | rfl | rfl := listed
      · rw [List.cons_append, List.singleton_append, splitBlank_cons (absurd · carriage),
          splitBlank_cons fun _ => next, whole]
        rfl
      · rw [List.singleton_append, splitBlank_cons (absurd · carriage), whole]
        rfl
      · exact absurd rfl other
    rw [ended, List.flatMap_cons, List.append_assoc, ← ended, splitBlank_unbroken plain, rest]
    rfl

end BurnLens.Library
