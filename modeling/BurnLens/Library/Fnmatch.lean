import BurnLens.Library.Text

/-! # File name patterns

`fnmatch.fnmatch` where letter case counts: `*`, `?` and sets in brackets.
-/

namespace BurnLens.Library

/-- The ranges of a set: `a-z`, or a character for itself. -/
def setRanges : Str → List (Char × Char)
  | first :: '-' :: last :: rest => (first, last) :: setRanges rest
  | c :: rest => (c, c) :: setRanges rest
  | [] => []

/-- Whether a character is in the set between two brackets. -/
def inSet (set : Str) (c : Char) : Bool :=
  match set with
  | '!' :: rest => !(setRanges rest).any fun range => range.1 ≤ c && c ≤ range.2
  | set => (setRanges set).any fun range => range.1 ≤ c && c ≤ range.2

/-- The set that an opening bracket begins and what follows it; the first character of a set,
    and the one after a `!`, does not close it. -/
def readSet (pattern : Str) : Option (Str × Str) :=
  let opening := match pattern with
    | '!' :: ']' :: _ => 2
    | '!' :: _ | ']' :: _ => 1
    | _ => 0
  match (pattern.drop opening).dropWhile (· ≠ ']') with
  | _ :: rest => some (pattern.take opening ++ (pattern.drop opening).takeWhile (· ≠ ']'), rest)
  | [] => none

inductive PatternPart where
  | any
  | one
  | set (set : Str)
  | char (c : Char)

def patternParts : (fuel : Nat) → Str → List PatternPart
  | 0, _ | _, [] => []
  | fuel + 1, '*' :: rest => .any :: patternParts fuel rest
  | fuel + 1, '?' :: rest => .one :: patternParts fuel rest
  | fuel + 1, '[' :: rest =>
    match readSet rest with
    | some (set, rest) => .set set :: patternParts fuel rest
    | none => .char '[' :: patternParts fuel rest
  | fuel + 1, c :: rest => .char c :: patternParts fuel rest

def matchParts : List PatternPart → Str → Bool
  | [], s => s.isEmpty
  | .any :: parts, s => s.tails.any (matchParts parts)
  | .one :: parts, _ :: s => matchParts parts s
  | .set set :: parts, c :: s => inSet set c && matchParts parts s
  | .char c :: parts, d :: s => c = d && matchParts parts s
  | _ :: _, [] => false

def fnmatch (name pattern : Str) : Bool := matchParts (patternParts pattern.length pattern) name

example : fnmatch "src/app/a.py" "src/*.p[xyz]" = true := by rfl

end BurnLens.Library
