import BurnLens.Library.Text

/-! # Lines

`str.splitlines`, which ends a line at more characters than a line feed, and `str.split` at a blank
line.  The lines of a text that are not blank depend neither on the white space around it nor on
where it is cut at blank lines.
-/

namespace BurnLens.Library

/-- The characters that end a line for `splitlines`. -/
def isLineBreak (c : Char) : Bool :=
  let n := c.toNat
  (10 ≤ n && n ≤ 13) || (28 ≤ n && n ≤ 30) || n == 0x85 || n == 0x2028 || n == 0x2029

def splitlines : Str → List Str
  | [] => []
  | '\r' :: '\n' :: s => [] :: splitlines s
  | c :: s =>
    if isLineBreak c then [] :: splitlines s
    else
      match splitlines s with
      | [] => [[c]]
      | line :: lines => (c :: line) :: lines

/-- `s.split("\n\n")`. -/
def splitBlank : Str → List Str
  | [] => [[]]
  | '\n' :: '\n' :: s => [] :: splitBlank s
  | c :: s =>
    match splitBlank s with
    | [] => [[c]]
    | piece :: pieces => (c :: piece) :: pieces

def dropBlank (lines : List Str) : List Str := (lines.map strip).filter fun line => !line.isEmpty

/-- The lines that are not blank, without the white space around them. -/
def textLines (s : Str) : List Str := dropBlank (splitlines s)

/-! ## Lines by their breaks -/

theorem isSpace_of_isLineBreak {c : Char} (ends : isLineBreak c = true) : isSpace c = true := by
  simp only [isLineBreak, isSpace, Bool.or_eq_true, Bool.and_eq_true, decide_eq_true_eq,
    beq_iff_eq] at ends ⊢
  omega

theorem unbroken_of_all {s : Str} (unbroken : s.all (fun c => !isLineBreak c) = true) :
    ∀ c ∈ s, isLineBreak c = false := by
  simpa only [List.all_eq_true, Bool.not_eq_true'] using unbroken

theorem dropBlank_cons (line : Str) {lines others : List Str} (same : dropBlank lines = dropBlank others) :
    dropBlank (line :: lines) = dropBlank (line :: others) := by
  simp only [dropBlank, List.map_cons, List.filter_cons] at same ⊢
  rw [same]

/-- Both splits have the same first line, and the same others up to blank ones. -/
theorem splitlines_splitOnP (s : Str) :
    (s = [] ∧ splitlines s = []) ∨ ∃ line lines others, splitlines s = line :: lines ∧
      s.splitOnP isLineBreak = line :: others ∧ dropBlank lines = dropBlank others := by
  have blank : ∀ {s : Str}, ((s = [] ∧ splitlines s = []) ∨ ∃ line lines others,
      splitlines s = line :: lines ∧ s.splitOnP isLineBreak = line :: others ∧
        dropBlank lines = dropBlank others) →
      dropBlank (splitlines s) = dropBlank (s.splitOnP isLineBreak) := by
    rintro s (⟨rfl, none⟩ | ⟨line, lines, others, split, whole, same⟩)
    · rfl
    · rw [split, whole, dropBlank_cons line same]
  induction s using splitlines.induct with
  | case1 => exact .inl ⟨rfl, rfl⟩
  | case2 s inductionHypothesis =>
    refine .inr ⟨[], splitlines s, [] :: s.splitOnP isLineBreak, rfl, ?_, blank inductionHypothesis⟩
    simp [List.splitOnP_cons_eq_if_modifyHead, isLineBreak]
  | case3 c s notPair ends inductionHypothesis =>
    refine .inr ⟨[], splitlines s, s.splitOnP isLineBreak, ?_, ?_, blank inductionHypothesis⟩
    · rw [splitlines, if_pos ends]
      exact notPair
    · rw [List.splitOnP_cons_eq_if_modifyHead, if_pos ends]
  | case4 c s notPair goes none inductionHypothesis =>
    obtain ⟨rfl, -⟩ | ⟨line, lines, others, split, -⟩ := inductionHypothesis
    · refine .inr ⟨[c], [], [], ?_, ?_, rfl⟩
      · rw [splitlines, if_neg goes, none]
        exact notPair
      · simp [List.splitOnP_cons_eq_if_modifyHead, goes]
    · rw [none] at split
      cases split
  | case5 c s notPair goes line lines split inductionHypothesis =>
    obtain ⟨-, none⟩ | ⟨line, lines, others, found, whole, same⟩ := inductionHypothesis
    · rw [none] at split
      cases split
    · rw [found] at split
      cases split
      refine .inr ⟨c :: line, lines, others, ?_, ?_, same⟩
      · rw [splitlines, if_neg goes, found]
        exact notPair
      · rw [List.splitOnP_cons_eq_if_modifyHead, if_neg goes, whole]
        rfl

theorem textLines_eq (s : Str) : textLines s = dropBlank (s.splitOnP isLineBreak) := by
  rw [textLines]
  obtain ⟨rfl, none⟩ | ⟨line, lines, others, split, whole, same⟩ := splitlines_splitOnP s
  · rfl
  · rw [split, whole, dropBlank_cons line same]

@[simp] theorem textLines_nil : textLines [] = [] := rfl

theorem dropBlank_append (lines others : List Str) :
    dropBlank (lines ++ others) = dropBlank lines ++ dropBlank others := by
  simp [dropBlank]

theorem textLines_append {c : Char} (ends : isLineBreak c = true) (front back : Str) :
    textLines (front ++ c :: back) = textLines front ++ textLines back := by
  rw [textLines_eq, List.splitOnP_append_cons _ _ ends, dropBlank_append, ← textLines_eq,
    ← textLines_eq]

theorem textLines_unbroken {s : Str} (unbroken : ∀ c ∈ s, isLineBreak c = false) :
    textLines s = dropBlank [s] := by
  rw [textLines_eq, List.splitOnP_eq_singleton unbroken]

/-! ## White space around a text -/

theorem strip_cons {c : Char} (space : isSpace c = true) (s : Str) : strip (c :: s) = strip s := by
  simp [strip, space]

theorem strip_concat {c : Char} (space : isSpace c = true) (s : Str) : strip (s ++ [c]) = strip s := by
  simp only [strip]
  by_cases blank : ∀ d ∈ s, isSpace d = true
  · have front : s.dropWhile isSpace = [] := List.dropWhile_eq_nil_iff.mpr blank
    have whole : (s ++ [c]).dropWhile isSpace = [] := by
      apply List.dropWhile_eq_nil_iff.mpr
      simpa [or_imp, forall_and, space] using blank
    rw [front, whole]
  · have kept : (s ++ [c]).dropWhile isSpace = s.dropWhile isSpace ++ [c] := by
      rw [List.dropWhile_append, if_neg]
      rwa [List.isEmpty_iff, List.dropWhile_eq_nil_iff]
    rw [kept, List.rdropWhile_concat_pos _ _ _ space]

theorem isSpace_of_strip_eq_cons {s rest : Str} {c : Char} (stripped : strip s = c :: rest) :
    isSpace c = false := by
  obtain ⟨back, same⟩ : strip s <+: s.dropWhile isSpace := List.rdropWhile_prefix _ _
  rw [stripped, List.cons_append] at same
  have idempotent : (s.dropWhile isSpace).dropWhile isSpace = s.dropWhile isSpace :=
    List.dropWhile_idempotent isSpace s
  rw [← same] at idempotent
  by_contra space
  rw [Bool.not_eq_false] at space
  rw [List.dropWhile_cons_of_pos space] at idempotent
  have shorter := (List.dropWhile_sublist (l := rest ++ back) isSpace).length_le
  rw [idempotent, List.length_cons] at shorter
  omega

theorem strip_strip (s : Str) : strip (strip s) = strip s := by
  have front : (strip s).dropWhile isSpace = strip s := by
    cases stripped : strip s with
    | nil => rfl
    | cons c rest =>
      apply List.dropWhile_cons_of_neg
      rw [isSpace_of_strip_eq_cons stripped]
      exact Bool.false_ne_true
  rw [strip, front]
  exact List.rdropWhile_idempotent isSpace _

theorem textLines_cons {c : Char} (space : isSpace c = true) (s : Str) :
    textLines (c :: s) = textLines s := by
  by_cases ends : isLineBreak c = true
  · exact textLines_append ends [] s
  · rw [textLines_eq, textLines_eq, List.splitOnP_cons_eq_if_modifyHead, if_neg ends]
    obtain ⟨line, lines, split⟩ := List.exists_cons_of_ne_nil (List.splitOnP_ne_nil isLineBreak s)
    rw [split]
    simp only [List.modifyHead_cons, dropBlank, List.map_cons, strip_cons space]

theorem textLines_concat {c : Char} (space : isSpace c = true) (s : Str) :
    textLines (s ++ [c]) = textLines s := by
  by_cases ends : isLineBreak c = true
  · simpa using textLines_append ends s []
  · -- the last line gains a character that `strip` takes away
    have last : ∀ s : Str, ∃ lines line, s.splitOnP isLineBreak = lines ++ [line] ∧
        (s ++ [c]).splitOnP isLineBreak = lines ++ [line ++ [c]] := by
      intro s
      induction s with
      | nil => exact ⟨[], [], rfl, by simp [List.splitOnP_cons_eq_if_modifyHead, ends]⟩
      | cons d s inductionHypothesis =>
        obtain ⟨lines, line, split, whole⟩ := inductionHypothesis
        by_cases breaks : isLineBreak d = true
        · refine ⟨[] :: lines, line, ?_, ?_⟩
          · rw [List.splitOnP_cons_eq_if_modifyHead, if_pos breaks, split]
            rfl
          · rw [List.cons_append, List.splitOnP_cons_eq_if_modifyHead, if_pos breaks, whole]
            rfl
        · cases lines with
          | nil =>
            refine ⟨[], d :: line, ?_, ?_⟩
            · rw [List.splitOnP_cons_eq_if_modifyHead, if_neg breaks, split]
              rfl
            · rw [List.cons_append, List.splitOnP_cons_eq_if_modifyHead, if_neg breaks, whole]
              rfl
          | cons first lines =>
            refine ⟨(d :: first) :: lines, line, ?_, ?_⟩
            · rw [List.splitOnP_cons_eq_if_modifyHead, if_neg breaks, split]
              rfl
            · rw [List.cons_append, List.splitOnP_cons_eq_if_modifyHead, if_neg breaks, whole]
              rfl
    obtain ⟨lines, line, split, whole⟩ := last s
    rw [textLines_eq, textLines_eq, split, whole, dropBlank_append, dropBlank_append]
    simp only [dropBlank, List.map_cons, strip_concat space]

theorem textLines_strip (s : Str) : textLines (strip s) = textLines s := by
  have front : ∀ s : Str, textLines (s.dropWhile isSpace) = textLines s := by
    intro s
    induction s with
    | nil => rfl
    | cons c s inductionHypothesis =>
      by_cases space : isSpace c = true
      · rw [List.dropWhile_cons_of_pos space, inductionHypothesis, textLines_cons space]
      · rw [List.dropWhile_cons_of_neg space]
  have back : ∀ s : Str, textLines (s.rdropWhile isSpace) = textLines s := by
    intro s
    induction s using List.reverseRecOn with
    | nil => rfl
    | append_singleton s c inductionHypothesis =>
      by_cases space : isSpace c = true
      · rw [List.rdropWhile_concat_pos _ _ _ space, inductionHypothesis, textLines_concat space]
      · rw [List.rdropWhile_concat_neg _ _ _ space]
  rw [strip, back, front]

theorem not_isSpace_getLast_strip {s : Str} (filled : strip s ≠ []) :
    isSpace ((strip s).getLast filled) = false := by
  have visible := List.rdropWhile_last_not isSpace (s.dropWhile isSpace) filled
  rwa [Bool.not_eq_true] at visible

theorem strip_append {c : Char} (visible : isSpace c = false) (front : Str) {s : Str}
    (trimmed : strip s = s) (filled : s ≠ []) : strip (c :: front ++ s) = c :: front ++ s := by
  have begins : (c :: front ++ s).dropWhile isSpace = c :: front ++ s :=
    List.dropWhile_cons_of_neg (by simp [visible])
  have nonempty : strip s ≠ [] := by rwa [trimmed]
  have last := not_isSpace_getLast_strip nonempty
  rw [strip, begins, List.rdropWhile_eq_self_iff]
  intro whole
  rw [List.getLast_append_of_ne_nil whole filled]
  simpa [trimmed] using last

theorem strip_surrounded (s : Str) : ∃ lead trail, (∀ c ∈ lead, isSpace c = true) ∧
    (∀ c ∈ trail, isSpace c = true) ∧ s = lead ++ (strip s ++ trail) := by
  refine ⟨s.takeWhile isSpace, (s.dropWhile isSpace).rtakeWhile isSpace, fun c member => ?_,
    fun c member => ?_, ?_⟩
  · exact List.mem_takeWhile_imp member
  · exact List.mem_rtakeWhile_imp member
  · rw [strip, List.rdropWhile_append_rtakeWhile, List.takeWhile_append_dropWhile]

theorem strip_append_spaces {trail : Str} (spaces : ∀ c ∈ trail, isSpace c = true) (s : Str) :
    strip (s ++ trail) = strip s := by
  induction trail generalizing s with
  | nil => rw [List.append_nil]
  | cons c trail inductionHypothesis =>
    rw [List.forall_mem_cons] at spaces
    rw [List.append_cons, inductionHypothesis spaces.2, strip_concat spaces.1]

theorem strip_spaces_append {lead : Str} (spaces : ∀ c ∈ lead, isSpace c = true) (s : Str) :
    strip (lead ++ s) = strip s := by
  induction lead with
  | nil => rfl
  | cons c lead inductionHypothesis =>
    rw [List.forall_mem_cons] at spaces
    rw [List.cons_append, strip_cons spaces.1, inductionHypothesis spaces.2]

theorem strip_label {c : Char} (visible : isSpace c = false) (front : Str) {s : Str}
    (filled : strip s ≠ []) : ∃ lead, (∀ d ∈ lead, isSpace d = true) ∧
      strip (c :: front ++ s) = c :: front ++ (lead ++ strip s) := by
  obtain ⟨lead, trail, leading, trailing, same⟩ := strip_surrounded s
  refine ⟨lead, leading, ?_⟩
  have whole : strip (c :: (front ++ lead) ++ strip s) = c :: (front ++ lead) ++ strip s :=
    strip_append visible (front ++ lead) (strip_strip s) filled
  have moved : c :: front ++ s = c :: (front ++ lead) ++ strip s ++ trail := by
    refine (congrArg (c :: front ++ ·) same).trans ?_
    simp only [List.cons_append, List.append_assoc]
  rw [moved, strip_append_spaces trailing, whole]
  simp only [List.cons_append, List.append_assoc]

theorem textLines_lines_append {lines : List Str}
    (unbroken : ∀ line ∈ lines, ∀ c ∈ line, isLineBreak c = false) (rest : Str) :
    textLines ((lines.map fun line => line ++ ['\n']).flatten ++ rest) =
      dropBlank lines ++ textLines rest := by
  induction lines with
  | nil => rfl
  | cons line lines inductionHypothesis =>
    rw [List.forall_mem_cons] at unbroken
    have newline : isLineBreak '\n' = true := by decide
    have cut := textLines_append newline line
      ((lines.map fun line => line ++ ['\n']).flatten ++ rest)
    rw [inductionHypothesis unbroken.2, textLines_unbroken unbroken.1, ← List.append_assoc,
      ← dropBlank_append] at cut
    simpa using cut

theorem splitBlank_cases (s : Str) :
    splitBlank s = [s] ∨ ∃ piece rest, s = piece ++ '\n' :: '\n' :: rest ∧
      splitBlank s = piece :: splitBlank rest := by
  induction s using splitBlank.induct with
  | case1 => exact .inl rfl
  | case2 s => exact .inr ⟨[], s, rfl, rfl⟩
  | case3 c s notBlank none inductionHypothesis =>
    obtain whole | ⟨piece, rest, -, split⟩ := inductionHypothesis
    · rw [none] at whole
      cases whole
    · rw [none] at split
      cases split
  | case4 c s notBlank piece pieces found inductionHypothesis =>
    have step : splitBlank (c :: s) = (c :: piece) :: pieces := by
      rw [splitBlank, found]
      exact notBlank
    obtain whole | ⟨first, rest, same, split⟩ := inductionHypothesis
    · rw [found] at whole
      cases whole
      exact .inl step
    · rw [found] at split
      cases split
      exact .inr ⟨c :: piece, rest, by rw [same, List.cons_append], step⟩

theorem textLines_splitBlank (s : Str) : textLines s = (splitBlank s).flatMap textLines := by
  obtain whole | ⟨piece, rest, same, split⟩ := splitBlank_cases s
  · simp [whole]
  · have smaller : rest.length < s.length := by
      rw [same, List.length_append, List.length_cons, List.length_cons]
      omega
    have newline : isLineBreak '\n' = true := by decide
    rw [split, List.flatMap_cons, ← textLines_splitBlank rest, same, textLines_append newline,
      textLines_cons (isSpace_of_isLineBreak newline)]
termination_by s.length

/-! ## Lines are parts of their text -/

theorem strip_isInfix (s : Str) : strip s <:+: s :=
  ( List.rdropWhile_prefix _ _).isInfix.trans (List.dropWhile_suffix _).isInfix

theorem splitOnP_isInfix {α : Type} {ends : α → Bool} {l part : List α}
    (member : part ∈ l.splitOnP ends) : part <:+: l := by
  have parts : ∀ l : List α, ∃ first rest, l.splitOnP ends = first :: rest ∧ first <+: l ∧
      ∀ part ∈ rest, part <:+: l := by
    intro l
    induction l with
    | nil => exact ⟨[], [], rfl, List.prefix_refl _, List.forall_mem_nil _⟩
    | cons a l inductionHypothesis =>
      obtain ⟨first, rest, split, begins, inside⟩ := inductionHypothesis
      have longer : l <:+: a :: l := List.infix_cons (List.infix_refl l)
      by_cases breaks : ends a = true
      · refine ⟨[], first :: rest, ?_, List.nil_prefix, fun part member => ?_⟩
        · rw [List.splitOnP_cons_eq_if_modifyHead, if_pos breaks, split]
        · obtain rfl | later := List.mem_cons.mp member
          · exact begins.isInfix.trans longer
          · exact (inside part later).trans longer
      · refine ⟨a :: first, rest, ?_, (List.prefix_cons_inj a).mpr begins, fun part member => ?_⟩
        · rw [List.splitOnP_cons_eq_if_modifyHead, if_neg breaks, split]
          rfl
        · exact (inside part member).trans longer
  obtain ⟨first, rest, split, begins, inside⟩ := parts l
  rw [split] at member
  obtain rfl | later := List.mem_cons.mp member
  · exact begins.isInfix
  · exact inside part later

theorem isInfix_of_mem_textLines {line s : Str} (member : line ∈ textLines s) : line <:+: s := by
  rw [textLines_eq, dropBlank, List.mem_filter, List.mem_map] at member
  obtain ⟨⟨part, found, rfl⟩, -⟩ := member
  exact (strip_isInfix part).trans (splitOnP_isInfix found)

theorem isInfix_strip {part s : Str} (visible : ∀ c ∈ part, isSpace c = false) (inside : part <:+: s) :
    part <:+: strip s := by
  have front : ∀ {part s : Str}, (∀ c ∈ part, isSpace c = false) → part <:+: s →
      part <:+: s.dropWhile isSpace := by
    intro part s visible inside
    induction s with
    | nil => exact inside
    | cons c s inductionHypothesis =>
      by_cases space : isSpace c = true
      · rw [List.dropWhile_cons_of_pos space]
        obtain begins | later := List.infix_cons_iff.mp inside
        · cases part with
          | nil => exact List.nil_infix
          | cons d part =>
            have shown := visible d (.head _)
            rw [(List.cons_prefix_cons.mp begins).1, space] at shown
            cases shown
        · exact inductionHypothesis later
      · rwa [List.dropWhile_cons_of_neg space]
  rw [strip, List.rdropWhile, ← List.reverse_infix, List.reverse_reverse]
  apply front
  · simpa using visible
  · exact List.reverse_infix.mpr (front visible inside)

end BurnLens.Library
