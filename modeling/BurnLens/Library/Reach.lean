import Mathlib.Data.List.Dedup
import Mathlib.Logic.Function.Iterate
import Mathlib.Logic.Relation

/-! # Recursive queries

`WITH RECURSIVE ... UNION` adds to its first rows the candidates that are an edge away from a row
it has, until there are none.  It ends after as many rounds as there are candidates, with what is
reachable.
-/

namespace BurnLens.Library

/-! ## Graphs without cycles

A node that gets edges to nodes from which it is not reached closes no cycle.
-/

section

open Relation

variable {Node : Type*} {edge edge' : Node → Node → Prop} {targets : Node → Prop} {source a b : Node}

def Acyclic (edge : Node → Node → Prop) : Prop := ∀ a, ¬ TransGen edge a a

theorem Acyclic.of_empty (empty : ∀ a b, ¬ edge a b) : Acyclic edge := by
  intro a cycle
  obtain ⟨b, first, _⟩ := TransGen.head'_iff.mp cycle
  exact empty a b first

/-- A path over the new edges is an old one, or an old one leads to the first of them and from the
    last of them. -/
theorem path_of_insert (step : ∀ a b, edge' a b → edge a b ∨ a = source ∧ targets b)
    (path : TransGen edge' a b) :
    TransGen edge a b ∨ ReflTransGen edge a source ∧ ∃ t, targets t ∧ ReflTransGen edge t b := by
  induction path with
  | single first =>
    obtain old | ⟨rfl, new⟩ := step _ _ first
    · exact Or.inl (.single old)
    · exact Or.inr ⟨.refl, _, new, .refl⟩
  | tail _ last inductionHypothesis =>
    obtain old | ⟨rfl, new⟩ := step _ _ last
    · obtain path | ⟨start, t, target, path⟩ := inductionHypothesis
      · exact Or.inl (path.tail old)
      · exact Or.inr ⟨start, t, target, path.tail old⟩
    · obtain path | ⟨start, _⟩ := inductionHypothesis
      · exact Or.inr ⟨path.to_reflTransGen, _, new, .refl⟩
      · exact Or.inr ⟨start, _, new, .refl⟩

/-- Edges of one node to nodes that do not reach it close no cycle. -/
theorem Acyclic.insert (acyclic : Acyclic edge)
    (step : ∀ a b, edge' a b → edge a b ∨ a = source ∧ targets b)
    (apart : ∀ t, targets t → ¬ ReflTransGen edge t source) : Acyclic edge' := by
  intro a cycle
  obtain old | ⟨start, t, target, path⟩ := path_of_insert step cycle
  · exact acyclic a old
  · exact apart t target (path.trans start)

end

variable {Node : Type*} [DecidableEq Node] (edge : Node → Node → Bool) (candidates : List Node)

def frontier (reached : List Node) : List Node :=
  candidates.filter fun node => node ∉ reached ∧ reached.any fun known => edge known node

def expand (reached : List Node) : List Node := reached ++ (frontier edge candidates reached).dedup

def closure (start : List Node) : List Node := (expand edge candidates)^[candidates.length] start

/-- What a step of the recursion goes along. -/
def Leads (a b : Node) : Prop := b ∈ candidates ∧ edge a b = true

variable {edge candidates} {reached start : List Node} {a b : Node}

theorem mem_frontier : b ∈ frontier edge candidates reached ↔
    b ∉ reached ∧ ∃ a ∈ reached, Leads edge candidates a b := by
  simp only [frontier, List.mem_filter, decide_eq_true_eq, List.any_eq_true, Leads]
  constructor
  · intro ⟨candidate, fresh, a, known, leads⟩
    exact ⟨fresh, a, known, candidate, leads⟩
  · intro ⟨fresh, a, known, candidate, leads⟩
    exact ⟨candidate, fresh, a, known, leads⟩

theorem mem_expand : b ∈ expand edge candidates reached ↔
    b ∈ reached ∨ ∃ a ∈ reached, Leads edge candidates a b := by
  rw [expand, List.mem_append, List.mem_dedup, mem_frontier]
  by_cases known : b ∈ reached
  · simp [known]
  · simp [known]

/-! ## The rounds end -/

def unreached (candidates reached : List Node) : List Node :=
  candidates.filter fun node => node ∉ reached

theorem length_unreached_expand (found : b ∈ frontier edge candidates reached) :
    (unreached candidates (expand edge candidates reached)).length <
      (unreached candidates reached).length := by
  have fewer : unreached candidates (expand edge candidates reached) =
      (unreached candidates reached).filter fun node => node ∉ expand edge candidates reached := by
    rw [unreached, unreached, List.filter_filter]
    apply List.filter_congr
    intro node _
    by_cases known : node ∈ reached
    · simp [mem_expand, known]
    · simp [known]
  obtain ⟨candidate, fresh⟩ := List.mem_filter.mp found
  rw [fewer]
  refine List.length_filter_lt_length_iff_exists.mpr ⟨b, ?_, ?_⟩
  · rw [unreached, List.mem_filter]
    simp only [decide_eq_true_eq] at fresh ⊢
    exact ⟨candidate, fresh.1⟩
  · have there : b ∈ expand edge candidates reached :=
      List.mem_append_right _ (List.mem_dedup.mpr found)
    simp [there]

theorem expand_of_frontier_nil (ended : frontier edge candidates reached = []) :
    expand edge candidates reached = reached := by
  simp [expand, ended]

theorem frontier_iterate {rounds : Nat}
    (enough : (unreached candidates reached).length ≤ rounds) :
    frontier edge candidates ((expand edge candidates)^[rounds] reached) = [] := by
  induction rounds generalizing reached with
  | zero =>
    apply List.eq_nil_iff_forall_not_mem.mpr
    intro node found
    have fewer : _ < (unreached candidates reached).length := length_unreached_expand found
    omega
  | succ rounds inductionHypothesis =>
    rw [Function.iterate_succ_apply]
    cases found : frontier edge candidates reached with
    | nil =>
      have stays := expand_of_frontier_nil found
      rw [stays, Function.iterate_fixed stays rounds, found]
    | cons node others =>
      apply inductionHypothesis
      have member : node ∈ frontier edge candidates reached := by simp [found]
      have fewer := length_unreached_expand member
      omega

/-! ## What they reach -/

theorem subset_iterate (rounds : Nat) : reached ⊆ (expand edge candidates)^[rounds] reached := by
  induction rounds generalizing reached with
  | zero => exact fun _ member => member
  | succ rounds inductionHypothesis =>
    intro node member
    rw [Function.iterate_succ_apply]
    exact inductionHypothesis (mem_expand.mpr (Or.inl member))

theorem reaches_of_mem_iterate (rounds : Nat)
    (member : b ∈ (expand edge candidates)^[rounds] start) :
    ∃ a ∈ start, Relation.ReflTransGen (Leads edge candidates) a b := by
  induction rounds generalizing b with
  | zero => exact ⟨b, member, .refl⟩
  | succ rounds inductionHypothesis =>
    rw [Function.iterate_succ_apply', mem_expand] at member
    obtain known | ⟨middle, known, leads⟩ := member
    · exact inductionHypothesis known
    · obtain ⟨a, first, path⟩ := inductionHypothesis known
      exact ⟨a, first, path.tail leads⟩

/-- `UNION` lists each row once. -/
theorem nodup_closure (distinct : start.Nodup) : (closure edge candidates start).Nodup := by
  have rounds : ∀ n, ((expand edge candidates)^[n] start).Nodup := by
    intro n
    induction n with
    | zero => exact distinct
    | succ n inductionHypothesis =>
      rw [Function.iterate_succ_apply', expand]
      apply inductionHypothesis.append (List.nodup_dedup _)
      intro node known fresh
      exact (mem_frontier.mp (List.mem_dedup.mp fresh)).1 known
  exact rounds _

/-- A recursive query finds what is reachable. -/
theorem mem_closure : b ∈ closure edge candidates start ↔
    ∃ a ∈ start, Relation.ReflTransGen (Leads edge candidates) a b := by
  constructor
  · exact reaches_of_mem_iterate _
  · intro ⟨a, first, path⟩
    have ended : frontier edge candidates (closure edge candidates start) = [] :=
      frontier_iterate (List.length_filter_le ..)
    induction path with
    | refl => exact subset_iterate _ first
    | @tail middle last _ leads known =>
      by_contra missing
      have found : last ∈ frontier edge candidates (closure edge candidates start) :=
        mem_frontier.mpr ⟨missing, middle, known, leads⟩
      rw [ended] at found
      exact absurd found List.not_mem_nil

end BurnLens.Library
