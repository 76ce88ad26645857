import BurnLens.Execution.Records
import BurnLens.Library.Lines
import BurnLens.Library.Paths

/-! # Approved scope

`validate_scope` and the guards of the adapter, against what an approval of files and a branch is
meant to contain: where a path leads in the repository, and the branch that a ref is of.
-/

namespace BurnLens.Execution

open Library hiding lower

/-- The branch of a target, which may be given as a ref. -/
def branchName (target : Str) : Str := strip (removePrefix "refs/heads/" (strip target))

section

variable {r : Runtime} {request : ExecutionRequest} {call : Invocation}

/-- Every change leads to a file of the repository that a pattern approves, and the branch is not
    protected. -/
structure Contained (r : Runtime) (request : ExecutionRequest) : Prop where
  paths : ∀ change ∈ request.changes, ∃ resolved, resolvePath change.1 = some resolved ∧
    ∃ pattern ∈ request.scopedFiles, pathMatch resolved pattern = true
  target : r.lower (branchName request.targetBranch) ∉ Runtime.protectedBranches

/-- The target is refused, whatever the changes. -/
def TargetRefused (r : Runtime) (request : ExecutionRequest) : Prop :=
  ∀ changes, r.validateScope { request with changes := changes } ≠ .ok ()

/-- What passes the validation is contained, and the adapter refuses the targets that it refuses. -/
structure ScopeHolds (r : Runtime) (call : Invocation) : Prop where
  contained : r.validateScope call.request = .ok () → Contained r call.request
  guarded : TargetRefused r call.request →
    (∃ message, call.createBranch r = .error ⟨"ProtectedBranchError", message⟩) ∧
      ∃ message, call.commitScopedChanges r = .error ⟨"ProtectedBranchError", message⟩

/-! ## When the code contains the changes -/

/-- The name of a protected branch, or a change that no pattern takes. -/
def Refused (r : Runtime) (request : ExecutionRequest) : Prop :=
  r.lower (strip request.targetBranch) ∈ Runtime.protectedBranches ∨
    ∃ change ∈ request.changes, ∀ pattern ∈ request.scopedFiles, fnmatch change.1 pattern = false

/-- A change does not climb out of the repository, and where it leads a pattern takes it with as many
    slashes of its own as there are in the path. -/
structure WellBehaved (scopedFiles : List Str) (path : Str) : Prop where
  relative : isAbsolute path = false
  stays : NeverClimbs 0 (path.splitOn '/')
  approved : ∃ pattern ∈ scopedFiles, fnmatch (tidyPath path) pattern = true ∧
    (tidyPath path).count '/' = literalSlashes pattern

/-- The changes are well behaved, and the target is no ref of a protected branch. -/
structure Adheres (r : Runtime) (request : ExecutionRequest) : Prop where
  paths : ∀ change ∈ request.changes, WellBehaved request.scopedFiles change.1
  target : startsWith "refs/heads/" (strip request.targetBranch) = true →
    r.lower (strip ((strip request.targetBranch).drop 11)) ∉ Runtime.protectedBranches

theorem validateScope_iff : r.validateScope request = .ok () ↔ ¬ Refused r request := by
  rw [Runtime.validateScope, Refused, not_or]
  by_cases isProtected : r.lower (strip request.targetBranch) ∈ Runtime.protectedBranches
  · rw [if_pos isProtected]
    exact ⟨fun never => (by cases never), fun both => absurd isProtected both.1⟩
  · rw [if_neg isProtected]
    cases found : request.changes.find? fun change =>
        !request.scopedFiles.any fun pattern => fnmatch change.1 pattern with
    | none =>
      refine ⟨fun _ => ⟨isProtected, ?_⟩, fun _ => rfl⟩
      rintro ⟨change, here, unmatched⟩
      have taken := List.find?_eq_none.mp found change here
      rw [Bool.not_eq_true', Bool.not_eq_false, List.any_eq_true] at taken
      obtain ⟨pattern, among, matched⟩ := taken
      rw [unmatched pattern among] at matched
      cases matched
    | some change =>
      refine ⟨fun never => (by cases never), fun both => absurd ⟨change, ?_, ?_⟩ both.2⟩
      · exact List.mem_of_find?_eq_some found
      · intro pattern among
        have unmatched := List.find?_some found
        rw [Bool.not_eq_true', List.any_eq_false] at unmatched
        exact Bool.eq_false_of_not_eq_true (unmatched pattern among)

theorem targetRefused_iff :
    TargetRefused r request ↔
      r.lower (strip request.targetBranch) ∈ Runtime.protectedBranches := by
  constructor
  · intro refused
    by_contra allowed
    refine refused [] (validateScope_iff.mpr ?_)
    rintro (isProtected | ⟨change, here, -⟩)
    · exact allowed isProtected
    · cases here
  · intro isProtected changes passed
    exact validateScope_iff.mp passed (.inl isProtected)

theorem adapter_guarded (refused : TargetRefused r call.request) :
    (∃ message, call.createBranch r = .error ⟨"ProtectedBranchError", message⟩) ∧
      ∃ message, call.commitScopedChanges r = .error ⟨"ProtectedBranchError", message⟩ :=
  have isProtected := targetRefused_iff.mp refused
  ⟨⟨_, if_pos isProtected⟩, _, if_pos isProtected⟩

theorem path_contained_iff {scopedFiles : List Str} {path : Str} :
    (∃ resolved, resolvePath path = some resolved ∧
        ∃ pattern ∈ scopedFiles, pathMatch resolved pattern = true) ↔
      WellBehaved scopedFiles path := by
  constructor
  · rintro ⟨resolved, found, pattern, among, matched⟩
    obtain ⟨relative, stays⟩ := resolvePath_iff.mp ⟨resolved, found⟩
    rw [eq_tidyPath found] at matched
    exact ⟨relative, stays, pattern, among, pathMatch_iff.mp matched⟩
  · rintro ⟨relative, stays, pattern, among, matched⟩
    obtain ⟨resolved, found⟩ := resolvePath_iff.mpr ⟨relative, stays⟩
    refine ⟨resolved, found, pattern, among, ?_⟩
    rw [eq_tidyPath found]
    exact pathMatch_iff.mpr matched

theorem target_contained_iff {target : Str}
    (passed : r.lower (strip target) ∉ Runtime.protectedBranches) :
    r.lower (branchName target) ∉ Runtime.protectedBranches ↔
      (startsWith "refs/heads/" (strip target) = true →
        r.lower (strip ((strip target).drop 11)) ∉ Runtime.protectedBranches) := by
  rw [branchName, removePrefix]
  split
  · next isRef => exact ⟨fun other _ => other, fun other => other isRef⟩
  · next plain =>
    rw [strip_strip]
    exact iff_of_true passed fun isRef => absurd isRef plain

/-- The scope holds of a call if and only if the code refuses the request, or the changes are well
    behaved and the target is no ref of a protected branch. -/
theorem scope_contained_iff (r : Runtime) (call : Invocation) :
    ScopeHolds r call ↔ Refused r call.request ∨ Adheres r call.request := by
  by_cases refused : Refused r call.request
  · refine iff_of_true ⟨fun passed => ?_, adapter_guarded⟩ (.inl refused)
    exact absurd refused (validateScope_iff.mp passed)
  · have passed := validateScope_iff.mpr refused
    have allowed := (not_or.mp refused).1
    rw [or_iff_right refused]
    constructor
    · intro holds
      obtain ⟨paths, target⟩ := holds.contained passed
      exact ⟨fun change here => path_contained_iff.mp (paths change here),
        (target_contained_iff allowed).mp target⟩
    · intro adheres
      refine ⟨fun _ => ⟨fun change here => ?_, (target_contained_iff allowed).mpr adheres.target⟩,
        adapter_guarded⟩
      exact path_contained_iff.mpr (adheres.paths change here)

end

def changing (targetBranch path : Str) : Invocation :=
  { misdirected "default" with
    request := { Runtime.requestOn "main" targetBranch with changes := [(path, "")] } }

/-- A path out of the repository, a file of another directory and a ref of `main` all pass. -/
theorem scope_escaped :
    ¬ ScopeHolds Runtime.demo (changing "opt" "src/../../cron.py") ∧
      ¬ ScopeHolds Runtime.demo (changing "opt" "src/vendor/app.py") ∧
        ¬ ScopeHolds Runtime.demo (changing "refs/heads/main" "src/app.py") := by
  refine ⟨fun holds => ?_, fun holds => ?_, fun holds => ?_⟩
  · obtain ⟨resolved, found, -⟩ := (holds.contained rfl).paths _ (List.mem_singleton_self _)
    have outside : resolvePath "src/../../cron.py" = none := by decide
    cases outside.symm.trans found
  · obtain ⟨resolved, found, pattern, among, matched⟩ :=
      (holds.contained rfl).paths _ (List.mem_singleton_self _)
    have inside : resolvePath "src/vendor/app.py" = some "src/vendor/app.py".toList := by decide
    cases inside.symm.trans found
    rw [List.mem_singleton.mp among] at matched
    exact absurd matched (by decide)
  · exact absurd (holds.contained rfl).target (by decide)

end BurnLens.Execution
