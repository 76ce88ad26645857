import BurnLens.Library.Fnmatch
import Mathlib.Algebra.Order.Ring.Int

/-! # Paths and path patterns

A relative path, walked from a root: where it leads, and when it stays below the root.  A path
pattern is a file name pattern whose wildcards do not take a slash.
-/

namespace BurnLens.Library

/-! ## Walking a path -/

/-- The directories below the root, the innermost first, after one segment; the root is above
    itself. -/
def enter (stack : List Str) (segment : Str) : List Str :=
  if segment = [] ∨ segment = ['.'] then stack
  else if segment = ['.', '.'] then stack.tail
  else segment :: stack

/-- Where the segments lead, nothing where they leave the root on the way. -/
def resolveFrom (stack : List Str) : List Str → Option (List Str)
  | [] => some stack
  | segment :: rest =>
    if segment = ['.', '.'] ∧ stack = [] then none else resolveFrom (enter stack segment) rest

/-- The path of the names, innermost first. -/
def joinPath : List Str → Str
  | [] => ['.']
  | names => ['/'].intercalate names.reverse

def isAbsolute (path : Str) : Bool := path.head? = some '/'

/-- Where a path leads, seen from the root: nothing if it is absolute, or leaves the root. -/
def resolvePath (path : Str) : Option Str :=
  if isAbsolute path then none else (resolveFrom [] (path.splitOn '/')).map joinPath

/-- Where a path leads if the root is above itself. -/
def tidyPath (path : Str) : Str := joinPath ((path.splitOn '/').foldl enter [])

example : resolvePath "src//app/.././a.py" = some "src/a.py".toList ∧
    resolvePath "src/../../a.py" = none := by
  decide

def descent (segment : Str) : Int :=
  if segment = [] ∨ segment = ['.'] then 0 else if segment = ['.', '.'] then -1 else 1

/-- From so many directories below the root, no first segments lead above it. -/
def NeverClimbs (depth : Int) (segments : List Str) : Prop :=
  ∀ front, front <+: segments → 0 ≤ depth + (front.map descent).sum

theorem length_enter {stack : List Str} {segment : Str}
    (stays : ¬ (segment = ['.', '.'] ∧ stack = [])) :
    ((enter stack segment).length : Int) = stack.length + descent segment := by
  rw [enter, descent]
  split
  · rw [Int.add_zero]
  · split
    · next up =>
      cases stack with
      | nil => exact absurd ⟨up, rfl⟩ stays
      | cons name stack =>
        rw [List.tail_cons, List.length_cons]
        omega
    · rw [List.length_cons]
      omega

/-- The walk stays below the root if and only if it has always come down as far as it goes up. -/
theorem resolveFrom_eq (stack segments : List Str) :
    (NeverClimbs stack.length segments →
        resolveFrom stack segments = some (segments.foldl enter stack)) ∧
      (resolveFrom stack segments ≠ none → NeverClimbs stack.length segments) := by
  induction segments generalizing stack with
  | nil =>
    refine ⟨fun _ => rfl, fun _ front here => ?_⟩
    rw [List.prefix_nil.mp here]
    simp
  | cons segment rest inductionHypothesis =>
    by_cases leaves : segment = ['.', '.'] ∧ stack = []
    · obtain ⟨rfl, rfl⟩ := leaves
      constructor
      · intro above
        have first := above [['.', '.']] ⟨rest, rfl⟩
        exact absurd first (by decide)
      · intro stays
        exact absurd rfl stays
    · have depth := length_enter leaves
      obtain ⟨stays, above⟩ := inductionHypothesis (enter stack segment)
      rw [resolveFrom, if_neg leaves, List.foldl_cons]
      constructor
      · intro all
        refine stays fun front here => ?_
        have further := all (segment :: front) (List.cons_prefix_cons.mpr ⟨rfl, here⟩)
        rw [List.map_cons, List.sum_cons] at further
        omega
      · intro resolved front here
        cases front with
        | nil => simp
        | cons first front =>
          obtain ⟨rfl, below⟩ := List.cons_prefix_cons.mp here
          have further := above resolved front below
          rw [List.map_cons, List.sum_cons]
          omega

theorem resolvePath_iff {path : Str} :
    (∃ resolved, resolvePath path = some resolved) ↔
      isAbsolute path = false ∧ NeverClimbs 0 (path.splitOn '/') := by
  obtain ⟨stays, above⟩ := resolveFrom_eq [] (path.splitOn '/')
  rw [resolvePath]
  cases absolute : isAbsolute path with
  | true => simp
  | false =>
    rw [if_neg Bool.false_ne_true]
    constructor
    · rintro ⟨resolved, found⟩
      have inside : resolveFrom [] (path.splitOn '/') ≠ none := by
        intro none
        rw [none] at found
        cases found
      exact ⟨rfl, above inside⟩
    · rintro ⟨-, never⟩
      rw [stays never]
      exact ⟨_, rfl⟩

theorem eq_tidyPath {path resolved : Str} (found : resolvePath path = some resolved) :
    resolved = tidyPath path := by
  obtain ⟨absolute, never⟩ := resolvePath_iff.mp ⟨resolved, found⟩
  rw [resolvePath, absolute, if_neg Bool.false_ne_true, (resolveFrom_eq [] _).1 never] at found
  exact (Option.some.inj found).symm

/-! ## Path patterns -/

/-- The match where no wildcard takes a slash. -/
def matchWithin : List PatternPart → Str → Bool
  | [], s => s.isEmpty
  | .any :: parts, s =>
    (s.takeWhile (· ≠ '/')).tails.any fun front => matchWithin parts (front ++ s.dropWhile (· ≠ '/'))
  | .one :: parts, c :: s => c ≠ '/' && matchWithin parts s
  | .set set :: parts, c :: s => c ≠ '/' && inSet set c && matchWithin parts s
  | .char c :: parts, d :: s => c = d && matchWithin parts s
  | _ :: _, [] => false

/-- A pattern that is read as a path pattern. -/
def pathMatch (path pattern : Str) : Bool :=
  matchWithin (patternParts pattern.length pattern) path

example : pathMatch "config/a.json" "config/*.json" = true ∧
    pathMatch "config/a/b.json" "config/*.json" = false := ⟨rfl, rfl⟩

def PatternPart.isSlash : PatternPart → Bool
  | .char c => c = '/'
  | _ => false

/-- The slashes that a pattern has outside of its sets. -/
def literalSlashes (pattern : Str) : Nat :=
  (patternParts pattern.length pattern).countP PatternPart.isSlash

theorem slashes_le {parts : List PatternPart} {s : Str} (fits : matchParts parts s = true) :
    parts.countP PatternPart.isSlash ≤ s.count '/' := by
  induction parts generalizing s with
  | nil => exact Nat.zero_le _
  | cons part parts inductionHypothesis =>
    cases part with
    | any =>
      obtain ⟨rest, here, left⟩ := List.any_eq_true.mp fits
      obtain ⟨eaten, rfl⟩ := (List.mem_tails _ _).mp here
      have further := inductionHypothesis left
      rw [List.count_append, List.countP_cons_of_neg (by simp [PatternPart.isSlash])]
      omega
    | one =>
      cases s with
      | nil => cases fits
      | cons c s =>
        have further := inductionHypothesis fits
        rw [List.countP_cons_of_neg (by simp [PatternPart.isSlash])]
        exact further.trans List.count_le_count_cons
    | set set =>
      cases s with
      | nil => cases fits
      | cons c s =>
        have further := inductionHypothesis (Bool.and_eq_true_iff.mp fits).2
        rw [List.countP_cons_of_neg (by simp [PatternPart.isSlash])]
        exact further.trans List.count_le_count_cons
    | char c =>
      cases s with
      | nil => cases fits
      | cons d s =>
        obtain ⟨same, left⟩ := Bool.and_eq_true_iff.mp fits
        have further := inductionHypothesis left
        rw [List.countP_cons, List.count_cons, ← of_decide_eq_true same]
        simp only [PatternPart.isSlash, decide_eq_true_eq, beq_iff_eq]
        omega

/-- What is left when a star has taken some of the first segment. -/
theorem mem_leftovers {s rest : Str} :
    (∃ front ∈ (s.takeWhile (· ≠ '/')).tails, front ++ s.dropWhile (· ≠ '/') = rest) ↔
      ∃ eaten, s = eaten ++ rest ∧ '/' ∉ eaten := by
  have whole : s.takeWhile (· ≠ '/') ++ s.dropWhile (· ≠ '/') = s := List.takeWhile_append_dropWhile
  constructor
  · rintro ⟨front, here, rfl⟩
    obtain ⟨eaten, split⟩ := (List.mem_tails _ _).mp here
    refine ⟨eaten, ?_, fun slash => ?_⟩
    · rw [← List.append_assoc, split, whole]
    · have taken := List.mem_takeWhile_imp (split ▸ List.mem_append_left front slash)
      exact absurd taken (by decide)
  · rintro ⟨eaten, rfl, none⟩
    have eats : ∀ c ∈ eaten, decide (c ≠ '/') = true := by
      intro c here
      exact decide_eq_true fun slash => none (slash ▸ here)
    refine ⟨rest.takeWhile (· ≠ '/'), ?_, ?_⟩
    · rw [List.mem_tails, List.takeWhile_append_of_pos eats]
      exact List.suffix_append _ _
    · rw [List.dropWhile_append_of_pos eats, List.takeWhile_append_dropWhile]

/-- No wildcard takes a slash where all the slashes are for the pattern's own. -/
theorem matchWithin_iff {parts : List PatternPart} {s : Str} :
    matchWithin parts s = true ↔
      matchParts parts s = true ∧ s.count '/' = parts.countP PatternPart.isSlash := by
  induction parts generalizing s with
  | nil =>
    constructor
    · intro fits
      rw [List.isEmpty_iff.mp fits]
      exact ⟨rfl, rfl⟩
    · exact And.left
  | cons part parts inductionHypothesis =>
    cases part with
    | any =>
      rw [List.countP_cons_of_neg (by simp [PatternPart.isSlash])]
      constructor
      · intro fits
        obtain ⟨front, here, left⟩ := List.any_eq_true.mp fits
        obtain ⟨eaten, split, none⟩ := mem_leftovers.mp ⟨front, here, rfl⟩
        obtain ⟨fits, slashes⟩ := inductionHypothesis.mp left
        rw [split]
        refine ⟨List.any_eq_true.mpr ⟨_, (List.mem_tails _ _).mpr ⟨eaten, rfl⟩, fits⟩, ?_⟩
        rw [List.count_append, List.count_eq_zero_of_not_mem none, Nat.zero_add, slashes]
      · rintro ⟨fits, slashes⟩
        obtain ⟨rest, here, left⟩ := List.any_eq_true.mp fits
        obtain ⟨eaten, rfl⟩ := (List.mem_tails _ _).mp here
        have least := slashes_le left
        rw [List.count_append] at slashes
        have none : '/' ∉ eaten := List.count_eq_zero.mp (by omega)
        obtain ⟨front, here, same⟩ := mem_leftovers.mpr ⟨eaten, rfl, none⟩
        refine List.any_eq_true.mpr ⟨front, here, ?_⟩
        rw [same]
        exact inductionHypothesis.mpr ⟨left, by omega⟩
    | one =>
      cases s with
      | nil => exact ⟨fun never => (by cases never), fun never => (by cases never.1)⟩
      | cons c s =>
        rw [List.countP_cons_of_neg (by simp [PatternPart.isSlash]), List.count_cons]
        simp only [matchWithin, matchParts, Bool.and_eq_true, inductionHypothesis,
          decide_eq_true_eq, beq_iff_eq]
        constructor
        · rintro ⟨other, fits, slashes⟩
          rw [if_neg other]
          exact ⟨fits, slashes⟩
        · rintro ⟨fits, slashes⟩
          have least := slashes_le fits
          split at slashes
          · omega
          · next other => exact ⟨other, fits, slashes⟩
    | set set =>
      cases s with
      | nil => exact ⟨fun never => (by cases never), fun never => (by cases never.1)⟩
      | cons c s =>
        rw [List.countP_cons_of_neg (by simp [PatternPart.isSlash]), List.count_cons]
        simp only [matchWithin, matchParts, Bool.and_eq_true, inductionHypothesis,
          decide_eq_true_eq, beq_iff_eq]
        constructor
        · rintro ⟨⟨other, within⟩, fits, slashes⟩
          rw [if_neg other]
          exact ⟨⟨within, fits⟩, slashes⟩
        · rintro ⟨⟨within, fits⟩, slashes⟩
          have least := slashes_le fits
          split at slashes
          · omega
          · next other => exact ⟨⟨other, within⟩, fits, slashes⟩
    | char c =>
      cases s with
      | nil => exact ⟨fun never => (by cases never), fun never => (by cases never.1)⟩
      | cons d s =>
        simp only [matchWithin, matchParts, Bool.and_eq_true, inductionHypothesis,
          decide_eq_true_eq, and_assoc]
        refine and_congr_right fun same => and_congr_right fun _ => ?_
        rw [List.countP_cons, List.count_cons, same]
        simp only [PatternPart.isSlash, decide_eq_true_eq, beq_iff_eq]
        omega

theorem pathMatch_iff {path pattern : Str} :
    pathMatch path pattern = true ↔
      fnmatch path pattern = true ∧ path.count '/' = literalSlashes pattern :=
  matchWithin_iff

end BurnLens.Library
