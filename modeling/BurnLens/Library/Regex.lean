import BurnLens.Library.Text

/-! # Regular expressions

A matcher that tries the ways to match in the order of a backtracking engine: an alternative before
the next one, a greedy repetition as far as it goes, a lazy one from its least.  Only a class of
characters is repeated.
-/

namespace BurnLens.Library

inductive Regex where
  | char (cls : Char → Bool)
  | seq (first second : Regex)
  | alt (first second : Regex)
  | many (cls : Char → Bool) (isLazy : Bool)
  | group (index : Nat) (inner : Regex)
  /-- The text of a group again, compared as `fold` tells. -/
  | again (index : Nat) (fold : Char → Char)
  | start
  | stop
  | ahead (inner : Regex)

/-- Where matching stands: the number of characters before, and the rest. -/
structure Cursor where
  position : Nat := 0
  rest : Str
  group : Nat → Str := fun _ => []

namespace Cursor

def advance (s : Cursor) (rest : Str) : Cursor := { s with position := s.position + 1, rest }

def repeatGreedy {β : Type} (cls : Char → Bool) (k : Cursor → Option β) : Str → Cursor → Option β
  | [], s => k s
  | c :: rest, s =>
    if cls c then (repeatGreedy cls k rest (s.advance rest)).or (k s) else k s

def repeatLazy {β : Type} (cls : Char → Bool) (k : Cursor → Option β) : Str → Cursor → Option β
  | [], s => k s
  | c :: rest, s =>
    (k s).or (if cls c then repeatLazy cls k rest (s.advance rest) else none)

def expect (fold : Char → Char) : Str → Cursor → Option Cursor
  | [], s => some s
  | c :: text, s =>
    match s.rest with
    | [] => none
    | d :: rest => if fold c = fold d then expect fold text (s.advance rest) else none

end Cursor

namespace Regex

/-- The first way to match from `s` after which `k` succeeds. -/
def run {β : Type} : Regex → Cursor → (Cursor → Option β) → Option β
  | char cls, s, k =>
    match s.rest with
    | [] => none
    | c :: rest => if cls c then k (s.advance rest) else none
  | seq first second, s, k => first.run s fun s' => second.run s' k
  | alt first second, s, k => (first.run s k).or (second.run s k)
  | many cls false, s, k => Cursor.repeatGreedy cls k s.rest s
  | many cls true, s, k => Cursor.repeatLazy cls k s.rest s
  | group index inner, s, k =>
    inner.run s fun s' =>
      let text := s.rest.take (s'.position - s.position)
      k { s' with group := fun i => if i = index then text else s'.group i }
  | again index fold, s, k => (s.expect fold (s.group index)).bind k
  | start, s, k => if s.position = 0 then k s else none
  | stop, s, k => if s.rest = [] ∨ s.rest = ['\n'] then k s else none
  | ahead inner, s, k => if (inner.run s some).isSome then k s else none

structure Match where
  start : Nat
  stop : Nat
  group : Nat → Str

def finditerFrom (r : Regex) : Nat → Cursor → List Match
  | 0, _ => []
  | fuel + 1, s =>
    match r.run s some with
    | some s' => ⟨s.position, s'.position, s'.group⟩ :: r.finditerFrom fuel { s' with group := fun _ => [] }
    | none =>
      match s.rest with
      | [] => []
      | _ :: rest => r.finditerFrom fuel (s.advance rest)

/-- `r.finditer(text)` of a pattern that matches no empty text. -/
def finditer (r : Regex) (text : Str) : List Match := r.finditerFrom (text.length + 1) { rest := text }

def concat : List Regex → Regex
  | [] => many (fun _ => false) false
  | [r] => r
  | r :: rs => seq r (concat rs)

/-- `(?:first|second|…)`. -/
def oneOf : List Regex → Regex
  | [] => char fun _ => false
  | [r] => r
  | r :: rs => alt r (oneOf rs)

def literal (c : Char) : Regex := char (· = c)

def text (s : Str) : Regex := concat (s.map literal)

/-- The sign of kelvin, whose lower case is a `k`. -/
def kelvin : Char := Char.ofNat 0x212A

/-- One lower case letter, where case is ignored. -/
def letter (c : Char) : Regex :=
  char fun d => d = c || d = c.toUpper || (c = 's' && d = 'ſ') || (c = 'k' && d = kelvin) ||
    (c = 'i' && (d = 'İ' || d = 'ı'))

/-- A lower case word, where case is ignored. -/
def word (s : Str) : Regex := concat (s.map letter)

/-- `[a-zA-Z]`, where case is ignored. -/
def isLetter (c : Char) : Bool :=
  ('a' ≤ c && c ≤ 'z') || ('A' ≤ c && c ≤ 'Z') || c = 'ſ' || c = kelvin || c = 'İ' || c = 'ı'

/-- The lower case of the characters that `letter` knows. -/
def foldLetter (c : Char) : Char :=
  if 'A' ≤ c ∧ c ≤ 'Z' then c.toLower else if c = kelvin then 'k' else if c = 'İ' then 'i' else c

def many1 (cls : Char → Bool) : Regex := seq (char cls) (many cls false)

end Regex

end BurnLens.Library
