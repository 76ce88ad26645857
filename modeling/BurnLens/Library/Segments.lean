import BurnLens.Library.Text

/-! # Segments of a URL path

Two ways to read a name out of a path: the part after a given one among the parts between
slashes, and the text after the first occurrence of a marker.  `PathPattern` is a regular
expression for one named segment, as a substitution uses it, and `read_sub` says what a
reader finds after the substitution.
-/

namespace BurnLens.Library

def nextPart (name : Str) : List Str → Option Str
  | part :: next :: parts => if part = name then some next else nextPart name (next :: parts)
  | _ => none

def readAfter (marker : Str) (stops : Char → Bool) (url : Str) : Option Str :=
  (afterFirst marker (before '?' url)).map fun rest => rest.takeWhile fun c => !stops c

/-- `(prefix)([^stops]+)(follows)`: the expression matches where one of the prefixes stands,
    and a segment without stops up to something that `follows` accepts. -/
structure PathPattern where
  initials : List Str
  stops : Char → Bool
  follows : Str → Bool

namespace PathPattern

variable (pattern : PathPattern)

def matchHere (s : Str) : Option (Str × Str) :=
  pattern.initials.findSome? fun initial =>
    if startsWith initial s then
      let body := s.drop initial.length
      let rest := body.dropWhile fun c => !pattern.stops c
      if body.takeWhile (fun c => !pattern.stops c) ≠ [] ∧ pattern.follows rest = true then
        some (initial, rest)
      else none
    else none

def locate : Str → Option (Str × Str)
  | [] => none
  | c :: s =>
    match pattern.matchHere (c :: s) with
    | some found => some found
    | none => (locate s).map fun found => (c :: found.1, found.2)

def sub (routed s : Str) : Str :=
  match pattern.locate s with
  | some (front, rest) => front ++ routed ++ rest
  | none => s

def meets (marker s : Str) : Bool :=
  match pattern.locate s with
  | some (front, _) => !front.contains '?' && afterFirst marker front == some []
  | none => false

end PathPattern

/-! ## Parts and markers -/

theorem before_append_of_not_mem {c : Char} {front : Str} (back : Str) (absent : c ∉ front) :
    before c (front ++ back) = front ++ before c back := by
  refine List.takeWhile_append_of_pos fun d member => ?_
  simp only [decide_eq_true_eq]
  rintro rfl
  exact absent member

theorem before_append_of_mem {c : Char} {front : Str} (back : Str) (present : c ∈ front) :
    before c (front ++ back) = before c front := by
  induction front with
  | nil => cases present
  | cons d front inductionHypothesis =>
    obtain rfl | present := List.mem_cons.mp present
    · simp [before]
    · have rest := inductionHypothesis present
      simp only [before, List.cons_append, List.takeWhile_cons] at rest ⊢
      split
      · rw [rest]
      · rfl

theorem takeWhile_append_of_stop {stops : Char → Bool} {front : Str} (back : Str)
    (stopped : ∃ c ∈ front, stops c = true) :
    (front ++ back).takeWhile (fun c => !stops c) = front.takeWhile fun c => !stops c := by
  induction front with
  | nil => obtain ⟨c, member, -⟩ := stopped; cases member
  | cons d front inductionHypothesis =>
    cases stop : stops d with
    | true => simp [stop]
    | false =>
      have rest : ∃ c ∈ front, stops c = true := by
        obtain ⟨c, member, isStop⟩ := stopped
        obtain rfl | member := List.mem_cons.mp member
        · rw [stop] at isStop; cases isStop
        · exact ⟨c, member, isStop⟩
      simp only [List.cons_append, List.takeWhile_cons, stop, Bool.not_false, if_true,
        inductionHypothesis rest]

theorem afterFirst_self_append (marker front : Str) :
    ∃ rest, afterFirst marker (front ++ marker) = some rest := by
  induction front with
  | nil =>
    cases marker with
    | nil => exact ⟨[], rfl⟩
    | cons c marker => exact ⟨[], by simp [afterFirst, startsWith]⟩
  | cons c front inductionHypothesis =>
    rw [List.cons_append, afterFirst]
    split
    · exact ⟨_, rfl⟩
    · exact inductionHypothesis

theorem afterFirst_append_cons {marker front : Str} {c : Char} (back : Str) (absent : c ∉ marker)
    (nowhere : afterFirst marker front = none) :
    afterFirst marker (front ++ c :: back) = afterFirst marker back := by
  -- an occurrence that begins in front of `c` would have to reach over it
  have crosses : ∀ front : Str, startsWith marker front = false →
      startsWith marker (front ++ c :: back) = false := by
    intro front fails
    by_contra starts
    obtain ⟨rest, same⟩ := startsWith_iff.mp (by simpa using starts)
    by_cases long : marker.length ≤ front.length
    · rw [startsWith_append_left _ long, fails] at starts
      exact starts rfl
    · -- `marker` reaches past `front`, so it holds the separator
      have reached : (front ++ c :: back)[front.length]? = some c := by simp
      rw [same, List.getElem?_append_left (by omega)] at reached
      exact absent (List.mem_of_getElem? reached)
  induction front with
  | nil =>
    simp only [afterFirst] at nowhere
    split at nowhere
    · cases nowhere
    · next nonempty =>
      have fails : startsWith marker [] = false := by
        cases marker with
        | nil => exact absurd rfl nonempty
        | cons d marker => rfl
      have fails := crosses [] fails
      simp only [List.nil_append] at fails ⊢
      rw [afterFirst, fails]
      rfl
  | cons d front inductionHypothesis =>
    simp only [afterFirst] at nowhere
    split at nowhere
    · cases nowhere
    · next fails =>
      have fails := crosses (d :: front) (by simpa using fails)
      rw [List.cons_append] at fails ⊢
      rw [afterFirst, fails]
      exact inductionHypothesis nowhere

theorem mem_of_afterFirst {marker s rest : Str} {c : Char} (found : afterFirst marker s = some rest)
    (member : c ∈ marker) : c ∈ s := by
  obtain ⟨front, rfl⟩ := afterFirst_split found
  simp [member]

theorem afterFirst_skip {c : Char} {marker front : Str} (s : Str) (absent : c ∉ front) :
    afterFirst (c :: marker) (front ++ s) = afterFirst (c :: marker) s := by
  induction front with
  | nil => rfl
  | cons d front inductionHypothesis =>
    simp only [List.mem_cons, not_or] at absent
    rw [List.cons_append, afterFirst, inductionHypothesis absent.2]
    simp [startsWith, absent.1]

theorem splitOn_head (s : Str) : ∃ parts, s.splitOn '/' = before '/' s :: parts := by
  by_cases slash : '/' ∈ s
  · obtain ⟨part, rest, rfl, absent⟩ := List.eq_append_cons_of_mem slash
    exact ⟨rest.splitOn '/', by
      rw [List.splitOn_append_cons_self_of_not_mem absent, before_append_of_not_mem _ absent]
      simp [before]⟩
  · refine ⟨[], ?_⟩
    rw [List.splitOn_eq_singleton slash]
    simpa [before] using (before_append_of_not_mem [] slash).symm

theorem nextPart_splitOn {name : Str} (clean : '/' ∉ name) (s : Str)
    (later : ∀ rest, s ≠ name ++ '/' :: rest) :
    nextPart name (s.splitOn '/') =
      (afterFirst ('/' :: (name ++ ['/'])) s).map (before '/') := by
  induction size : s.length using Nat.strongRecOn generalizing s with
  | ind n inductionHypothesis =>
    by_cases slash : '/' ∈ s
    · obtain ⟨part, rest, rfl, absent⟩ := List.eq_append_cons_of_mem slash
      have other : part ≠ name := fun same => later rest (by rw [same])
      obtain ⟨parts, split⟩ := splitOn_head rest
      rw [List.splitOn_append_cons_self_of_not_mem absent, afterFirst_skip _ absent, split, nextPart,
        if_neg other, ← split]
      by_cases here : ∃ back, rest = name ++ '/' :: back
      · -- the part behind this slash is `name`: the next one is read
        obtain ⟨back, rfl⟩ := here
        obtain ⟨parts, split⟩ := splitOn_head back
        rw [List.splitOn_append_cons_self_of_not_mem clean, split, nextPart, if_pos rfl]
        have starts := startsWith_append ('/' :: (name ++ ['/'])) back
        simp only [List.cons_append, List.append_assoc, List.nil_append] at starts
        rw [afterFirst, starts]
        simp
      -- no marker at this slash: both sides go on behind it
      · have fails : startsWith ('/' :: (name ++ ['/'])) ('/' :: rest) = false := by
          by_contra starts
          obtain ⟨back, same⟩ := startsWith_iff.mp (by simpa using starts)
          exact here ⟨back, by simpa using same⟩
        rw [inductionHypothesis rest.length (by simp at size; omega) rest
          (fun back same => here ⟨back, same⟩) rfl, afterFirst, fails]
        rfl
    · have nowhere : afterFirst ('/' :: (name ++ ['/'])) s = none := by
        by_contra found
        obtain ⟨rest, found⟩ := Option.ne_none_iff_exists'.mp found
        exact slash (mem_of_afterFirst found (by simp))
      rw [List.splitOn_eq_singleton slash, nowhere]
      rfl

namespace PathPattern

variable {pattern : PathPattern}

theorem matchHere_some {s front rest : Str} (found : pattern.matchHere s = some (front, rest)) :
    front ∈ pattern.initials ∧ pattern.follows rest = true ∧
      (∀ c tail, rest = c :: tail → pattern.stops c = true) ∧
      ∃ segment, s = front ++ segment ++ rest := by
  obtain ⟨initial, member, matched⟩ := List.exists_of_findSome?_eq_some found
  simp only at matched
  split at matched
  · next starts =>
    split at matched
    · next accepted =>
      cases matched
      obtain ⟨body, rfl⟩ := startsWith_iff.mp starts
      -- the segment ends where the run without stops does
      refine ⟨member, accepted.2, fun c tail same => ?_,
        body.takeWhile fun c => !pattern.stops c, ?_⟩
      · have head := List.head?_dropWhile_not (fun c => !pattern.stops c) body
        simp only [List.drop_left] at same
        rw [same] at head
        simpa using head
      · simp only [List.drop_left, List.append_assoc, List.takeWhile_append_dropWhile]
    · cases matched
  · cases matched

theorem locate_some {s front rest : Str} (found : pattern.locate s = some (front, rest)) :
    pattern.follows rest = true ∧
      (∀ c tail, rest = c :: tail → pattern.stops c = true) ∧
      (∃ initial ∈ pattern.initials, ∃ earlier, front = earlier ++ initial) ∧
      ∃ segment, s = front ++ segment ++ rest := by
  induction s generalizing front with
  | nil => cases found
  | cons c s inductionHypothesis =>
    simp only [locate] at found
    split at found
    · next here =>
      cases found
      obtain ⟨member, follows, stopped, segment, same⟩ := matchHere_some here
      exact ⟨follows, stopped, ⟨front, member, [], rfl⟩, segment, same⟩
    · obtain ⟨⟨front, rest⟩, located, same⟩ := Option.map_eq_some_iff.mp found
      cases same
      obtain ⟨follows, stopped, ⟨initial, member, earlier, rfl⟩, segment, rfl⟩ :=
        inductionHypothesis located
      exact ⟨follows, stopped, ⟨initial, member, c :: earlier, rfl⟩, segment, rfl⟩

/-- A reader of `marker` finds the routed name where the substitution meets the segment it
    reads, and what it found before anywhere else. -/
theorem read_sub {marker routed : Str} (s : Str)
    (marked : ∀ initial ∈ pattern.initials, marker <:+ initial)
    (slash : ∃ front, marker = front ++ ['/']) (stopsSlash : pattern.stops '/' = true)
    (nonempty : pattern.follows [] = false)
    (clean : ∀ c ∈ routed, c ≠ '?' ∧ pattern.stops c = false) :
    readAfter marker pattern.stops (pattern.sub routed s) =
      if pattern.meets marker s then some routed else readAfter marker pattern.stops s := by
  cases located : pattern.locate s with
  | none => simp [sub, meets, located]
  | some found =>
    obtain ⟨front, rest⟩ := found
    obtain ⟨follows, stopped, ⟨initial, member, earlier, sameFront⟩, segment, sameText⟩ :=
      locate_some located
    obtain ⟨lead, sameInitial⟩ := marked initial member
    simp only [sub, meets, located]
    rw [List.append_assoc, sameText, List.append_assoc]
    by_cases query : '?' ∈ front
    · -- the match is in the query: the path is the same
      simp [readAfter, before_append_of_mem _ query, query]
    · obtain ⟨tail, first⟩ := afterFirst_self_append marker (earlier ++ lead)
      rw [List.append_assoc, sameInitial, ← sameFront] at first
      -- the marker stands in the path, in front of the match or as its end
      simp only [readAfter, before_append_of_not_mem _ query, afterFirst_append _ first,
        Option.map_some, first]
      cases tail with
      | nil =>
        have cleanQuery : '?' ∉ routed := fun present => (clean _ present).1 rfl
        have unstopped : ∀ c ∈ routed, (!pattern.stops c) = true := fun c present => by
          simp [(clean c present).2]
        cases rest with
        | nil => rw [nonempty] at follows; cases follows
        | cons c rest =>
          have stop := stopped c rest rfl
          rw [before_append_of_not_mem _ cleanQuery, List.nil_append,
            List.takeWhile_append_of_pos unstopped]
          -- the segment is read up to the stop behind it, or up to the query
          by_cases mark : c = '?' <;> simp [query, before, mark, stop]
      | cons c tail =>
        -- the first marker is further left: the segment it opens ends before the match
        have ends : ∃ d ∈ c :: tail, pattern.stops d = true := by
          obtain ⟨earlier, split⟩ := afterFirst_split first
          obtain ⟨beginning, rfl⟩ := slash
          refine ⟨'/', ?_, stopsSlash⟩
          have last : (c :: tail).getLast? = some '/' := by
            have := congrArg List.getLast? (split.symm.trans sameFront)
            rw [← sameInitial] at this
            simpa [List.getLast?_append, List.getLast?_cons] using this
          exact List.mem_of_getLast? last
        rw [takeWhile_append_of_stop _ ends, takeWhile_append_of_stop _ ends]
        simp [query]

theorem before_sub {marker : Str} (routed s : Str)
    (marked : ∀ initial ∈ pattern.initials, marker <:+ initial)
    (unread : readAfter marker pattern.stops s = none) :
    before '?' (pattern.sub routed s) = before '?' s := by
  cases located : pattern.locate s with
  | none => simp [sub, located]
  | some found =>
    obtain ⟨front, rest⟩ := found
    obtain ⟨-, -, ⟨initial, member, earlier, sameFront⟩, segment, sameText⟩ := locate_some located
    obtain ⟨lead, sameInitial⟩ := marked initial member
    simp only [sub, located]
    rw [List.append_assoc, sameText, List.append_assoc]
    by_cases query : '?' ∈ front
    · rw [before_append_of_mem _ query, before_append_of_mem _ query]
    · obtain ⟨tail, first⟩ := afterFirst_self_append marker (earlier ++ lead)
      rw [List.append_assoc, sameInitial, ← sameFront] at first
      rw [sameText, List.append_assoc, readAfter, before_append_of_not_mem _ query,
        afterFirst_append _ first] at unread
      cases unread

end PathPattern

end BurnLens.Library
