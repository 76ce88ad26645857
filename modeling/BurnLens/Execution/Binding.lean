import BurnLens.Execution.Models
import BurnLens.Library.Fnmatch
import BurnLens.Library.JsonText
import Mathlib.Data.List.Sort
import Mathlib.Data.List.Lex

/-! # What an approval binds

The fingerprints behind an approval: of a change map, of the parameters of an execution, and
of a token.  The hash functions, the text of an instant and the case mapping of strings are
parameters.
-/

namespace BurnLens.Execution

open Library hiding lower

structure ExecutionBinding where
  workspaceId : Str
  agentId : Str
  taskId : Str
  recommendationId : Str
  repo : Str
  baseBranch : Str
  targetBranch : Str
  scopedFiles : List Str
  changePayloadHash : Str
  expiresAt : Time
  nonce : Str

structure Runtime where
  sha256 : Str → Str
  -- `hmac` with the key of the service
  hmac : Str → Str
  -- of an instant in UTC
  isoformat : Time → Str
  lower : Str → Str
  -- `str` of a list
  strList : List Str → Str

/-- `sorted` of strings. -/
def sortedFiles (files : List Str) : List Str := files.mergeSort fun a b => !decide (b < a)

/-- `sorted` of pairs of strings. -/
def sortedChanges (changes : List (Str × Str)) : List (Str × Str) :=
  changes.mergeSort fun a b => !decide (b.1 < a.1 ∨ b.1 = a.1 ∧ b.2 < a.2)

namespace Runtime

variable (r : Runtime)

/-- What `compute_hash` digests. -/
def bindingText (binding : ExecutionBinding) : Str :=
  binding.workspaceId ++ '|' :: (binding.agentId ++ '|' :: (binding.taskId ++ '|' ::
    (binding.recommendationId ++ '|' :: (binding.repo ++ '|' :: (binding.baseBranch ++ '|' ::
      (binding.targetBranch ++ '|' :: ((",".toList).intercalate (sortedFiles binding.scopedFiles) ++
        '|' :: (binding.changePayloadHash ++ '|' :: (r.isoformat binding.expiresAt ++ '|' ::
          binding.nonce)))))))))

def computeHash (binding : ExecutionBinding) : Str := r.sha256 (r.bindingText binding)

def computePayloadHash (changes : List (Str × Str)) : Str :=
  r.sha256 (dumpsPairs (sortedChanges changes))

def protectedBranches : List Str :=
  ["main", "master", "prod", "production", "release"].map String.toList

def validateScope (request : ExecutionRequest) : Except Str Unit :=
  if r.lower (strip request.targetBranch) ∈ protectedBranches then
    .error ("PROTECTED_BRANCH_VIOLATION: Direct execution targeting protected branch '" ++
      request.targetBranch ++ "' is prohibited.")
  else
    match request.changes.find? fun change =>
        !request.scopedFiles.any fun pattern => fnmatch change.1 pattern with
    | some change =>
      .error ("SCOPE_VIOLATION: File '" ++ change.1 ++ "' is not permitted by scoped_files: " ++
        r.strList request.scopedFiles)
    | none => .ok ()

/-- The binding that `execute` computes for a request under a token. -/
def currentBinding (request : ExecutionRequest) (token : ApprovalToken) : ExecutionBinding where
  workspaceId := request.workspaceId
  agentId := request.agentId
  taskId := request.taskId
  recommendationId := request.recommendationId
  repo := request.repo
  baseBranch := request.baseBranch
  targetBranch := request.targetBranch
  scopedFiles := request.scopedFiles
  changePayloadHash := r.computePayloadHash request.changes
  expiresAt := token.expiresAt
  nonce := token.nonce

def verifier : Verifier where
  sign := r.hmac
  isoformat := r.isoformat
  bindingHash request token := r.computeHash (r.currentBinding request token)
  validateScope := r.validateScope

/-- `ApprovalToken.create`; the nonce is the one of its metadata. -/
def create (tokenId : Str) (binding : ExecutionBinding) (approver nonce : Str) : ApprovalToken :=
  let token : ApprovalToken :=
    { tokenId
      bindingHash := r.computeHash binding
      workspaceId := binding.workspaceId
      approver
      expiresAt := binding.expiresAt
      signature := []
      consumed := false
      nonce }
  { token with signature := r.hmac (r.verifier.sigData token) }

/-- `execute` gets past the workspace check, the validation of the token and the scope. -/
def Accepts (request : ExecutionRequest) (token : ApprovalToken) (now : Time) : Prop :=
  token.workspaceId = request.workspaceId ∧ r.verifier.verify request token now = .ok ()

/-- The request is the change that the binding describes. -/
structure Bound (request : ExecutionRequest) (token : ApprovalToken)
    (binding : ExecutionBinding) : Prop where
  workspaceId : request.workspaceId = binding.workspaceId
  agentId : request.agentId = binding.agentId
  taskId : request.taskId = binding.taskId
  recommendationId : request.recommendationId = binding.recommendationId
  repo : request.repo = binding.repo
  baseBranch : request.baseBranch = binding.baseBranch
  targetBranch : request.targetBranch = binding.targetBranch
  scopedFiles : ∀ file, file ∈ request.scopedFiles ↔ file ∈ binding.scopedFiles
  changePayloadHash : r.computePayloadHash request.changes = binding.changePayloadHash
  changes : ∀ changes, r.computePayloadHash changes = binding.changePayloadHash →
    request.changes.Perm changes
  expiresAt : token.expiresAt = binding.expiresAt
  nonce : token.nonce = binding.nonce

/-- The separators stand in the same places. -/
structure CutAlike (a b : ExecutionBinding) : Prop where
  agentId : a.agentId.length = b.agentId.length
  taskId : a.taskId.length = b.taskId.length
  recommendationId : a.recommendationId.length = b.recommendationId.length
  repo : a.repo.length = b.repo.length
  baseBranch : a.baseBranch.length = b.baseBranch.length
  targetBranch : a.targetBranch.length = b.targetBranch.length
  scopedFiles : (sortedFiles a.scopedFiles).map List.length =
    (sortedFiles b.scopedFiles).map List.length
  changePayloadHash : a.changePayloadHash.length = b.changePayloadHash.length

def SignedAlike (a b : ApprovalToken) : Prop :=
  a.tokenId.length = b.tokenId.length ∧ a.bindingHash.length = b.bindingHash.length ∧
    a.workspaceId.length = b.workspaceId.length ∧ a.approver.length = b.approver.length

def signedFields (token : ApprovalToken) : Str × Str × Str × Str × Time :=
  (token.tokenId, token.bindingHash, token.workspaceId, token.approver, token.expiresAt)

variable {r}

theorem cut {a b s t : Str} {c : Char} (same : a ++ c :: s = b ++ c :: t)
    (alike : a.length = b.length) : a = b ∧ s = t := by
  obtain ⟨front, back⟩ := List.append_inj same alike
  exact ⟨front, (List.cons.inj back).2⟩

theorem intercalate_comma (first : Str) (names : List Str) :
    (",".toList).intercalate (first :: names) = first ++ names.flatMap fun name => ',' :: name := by
  induction names generalizing first with
  | nil => simp
  | cons name names inductionHypothesis =>
    rw [List.intercalate_cons_cons, inductionHypothesis]
    simp

theorem names_eq {as bs : List Str}
    (same : (",".toList).intercalate as = (",".toList).intercalate bs)
    (alike : as.map List.length = bs.map List.length) : as = bs := by
  have tails : ∀ as bs : List Str, as.map List.length = bs.map List.length →
      (as.flatMap fun name => ',' :: name) = (bs.flatMap fun name => ',' :: name) → as = bs := by
    intro as
    induction as with
    | nil =>
      rintro (_ | ⟨b, bs⟩) alike _
      · rfl
      · cases alike
    | cons a as inductionHypothesis =>
      rintro (_ | ⟨b, bs⟩) alike same
      · cases alike
      · simp only [List.map_cons, List.cons.injEq] at alike
        simp only [List.flatMap_cons, List.cons_append, List.cons.injEq, true_and] at same
        obtain ⟨rfl, rest⟩ := List.append_inj same alike.1
        rw [inductionHypothesis bs alike.2 rest]
  cases as with
  | nil =>
    cases bs with
    | nil => rfl
    | cons b bs => cases alike
  | cons a as =>
    cases bs with
    | nil => cases alike
    | cons b bs =>
      simp only [List.map_cons, List.cons.injEq] at alike
      rw [intercalate_comma, intercalate_comma] at same
      obtain ⟨rfl, rest⟩ := List.append_inj same alike.1
      rw [tails as bs alike.2 rest]

theorem mem_sortedFiles {file : Str} {files : List Str} : file ∈ sortedFiles files ↔ file ∈ files :=
  (List.mergeSort_perm files _).mem_iff

theorem length_joined {as bs : List Str} (alike : as.map List.length = bs.map List.length) :
    ((",".toList).intercalate as).length = ((",".toList).intercalate bs).length := by
  cases as with
  | nil =>
    cases bs with
    | nil => rfl
    | cons b bs => cases alike
  | cons a as =>
    cases bs with
    | nil => cases alike
    | cons b bs =>
      simp only [List.map_cons, List.cons.injEq] at alike
      have tails : ∀ names : List Str, (names.flatMap fun name => ',' :: name).length =
          ((names.map List.length).map (· + 1)).sum := by
        intro names
        rw [List.length_flatMap, List.map_map]
        rfl
      rw [intercalate_comma, intercalate_comma, List.length_append, List.length_append, tails, tails,
        alike.1, alike.2]

/-- Bindings of one workspace and expiry with one text, cut alike, agree. -/
theorem eq_of_bindingText {a b : ExecutionBinding} (same : r.bindingText a = r.bindingText b)
    (workspaceId : a.workspaceId = b.workspaceId) (expiresAt : a.expiresAt = b.expiresAt)
    (alike : CutAlike a b) :
    a.agentId = b.agentId ∧ a.taskId = b.taskId ∧ a.recommendationId = b.recommendationId ∧
      a.repo = b.repo ∧ a.baseBranch = b.baseBranch ∧ a.targetBranch = b.targetBranch ∧
      sortedFiles a.scopedFiles = sortedFiles b.scopedFiles ∧
      a.changePayloadHash = b.changePayloadHash ∧ a.nonce = b.nonce := by
  rw [bindingText, bindingText, workspaceId, expiresAt] at same
  obtain ⟨-, same⟩ := cut same rfl
  obtain ⟨agentId, same⟩ := cut same alike.agentId
  obtain ⟨taskId, same⟩ := cut same alike.taskId
  obtain ⟨recommendationId, same⟩ := cut same alike.recommendationId
  obtain ⟨repo, same⟩ := cut same alike.repo
  obtain ⟨baseBranch, same⟩ := cut same alike.baseBranch
  obtain ⟨targetBranch, same⟩ := cut same alike.targetBranch
  have joined : ((",".toList).intercalate (sortedFiles a.scopedFiles)).length =
      ((",".toList).intercalate (sortedFiles b.scopedFiles)).length :=
    length_joined alike.scopedFiles
  obtain ⟨files, same⟩ := cut same joined
  obtain ⟨changePayloadHash, same⟩ := cut same alike.changePayloadHash
  obtain ⟨-, nonce⟩ := cut same rfl
  exact ⟨agentId, taskId, recommendationId, repo, baseBranch, targetBranch,
    names_eq files alike.scopedFiles, changePayloadHash, nonce⟩

theorem sortedFiles_eq {as bs : List Str} (distinct : as.Nodup) (distinct' : bs.Nodup)
    (same : ∀ file, file ∈ as ↔ file ∈ bs) : sortedFiles as = sortedFiles bs := by
  have le_iff : ∀ a b : Str, (!decide (b < a)) = true ↔ a ≤ b := by
    intro a b
    rw [Bool.not_eq_true', decide_eq_false_iff_not, not_lt]
  have sorted : ∀ files : List Str, (sortedFiles files).Pairwise fun a b => !decide (b < a) := by
    intro files
    apply List.pairwise_mergeSort
    · intro a b c first second
      rw [le_iff] at first second ⊢
      exact first.trans second
    · intro a b
      rw [Bool.or_eq_true, le_iff, le_iff]
      exact le_total a b
  apply List.Perm.eq_of_pairwise _ (sorted as) (sorted bs)
  · exact (List.mergeSort_perm as _).trans
      (((List.perm_ext_iff_of_nodup distinct distinct').mpr same).trans
        (List.mergeSort_perm bs _).symm)
  · intro a b _ _ first second
    rw [le_iff] at first second
    exact le_antisymm first second

/-! ## Fingerprints -/

theorem changes_perm (collisionFree : Function.Injective r.sha256)
    {changes changes' : List (Str × Str)}
    (same : r.computePayloadHash changes = r.computePayloadHash changes') :
    changes.Perm changes' := by
  have sorted : sortedChanges changes = sortedChanges changes' :=
    dumpsPairs_injective (collisionFree same)
  calc changes.Perm (sortedChanges changes) := (List.mergeSort_perm changes _).symm
    _ = sortedChanges changes' := sorted
    List.Perm _ changes' := List.mergeSort_perm changes' _

theorem signedFields_eq (instants : Function.Injective r.isoformat) {a b : ApprovalToken}
    (same : r.verifier.sigData a = r.verifier.sigData b) (alike : SignedAlike a b) :
    signedFields a = signedFields b := by
  obtain ⟨tokenIds, hashes, workspaces, approvers⟩ := alike
  simp only [Verifier.sigData, List.append_assoc] at same
  obtain ⟨tokenId, same⟩ := List.append_inj same tokenIds
  obtain ⟨bindingHash, same⟩ := List.append_inj (List.append_cancel_left same) hashes
  obtain ⟨workspaceId, same⟩ := List.append_inj (List.append_cancel_left same) workspaces
  obtain ⟨approver, same⟩ := List.append_inj (List.append_cancel_left same) approvers
  have expiresAt := instants (List.append_cancel_left same)
  simp only [signedFields, tokenId, bindingHash, workspaceId, approver, expiresAt]

variable {request : ExecutionRequest} {binding : ExecutionBinding} {tokenId approver nonce : Str}
  {now : Time}

/-- What `execute` has checked of a request with a token for this binding. -/
theorem Accepts.texts (collisionFree : Function.Injective r.sha256)
    (accepted : r.Accepts request (r.create tokenId binding approver nonce) now) :
    binding.workspaceId = request.workspaceId ∧ r.bindingText binding =
      r.bindingText (r.currentBinding request (r.create tokenId binding approver nonce)) :=
  ⟨accepted.1, collisionFree (r.verifier.bindingHash_of_verify accepted.2)⟩

theorem accepts_of_texts (workspaceId : binding.workspaceId = request.workspaceId)
    (texts : r.bindingText binding =
      r.bindingText (r.currentBinding request (r.create tokenId binding approver nonce)))
    (live : now ≤ binding.expiresAt) (scope : r.validateScope request = .ok ()) :
    r.Accepts request (r.create tokenId binding approver nonce) now := by
  refine ⟨workspaceId, ?_⟩
  have valid : r.verifier.isValid (r.create tokenId binding approver nonce)
      (r.verifier.bindingHash request (r.create tokenId binding approver nonce)) now = .ok () := by
    have unexpired : ¬ (r.create tokenId binding approver nonce).expiresAt < now := not_lt.mpr live
    rw [Verifier.isValid, if_neg (fun forged => forged rfl), if_neg, if_neg unexpired]
    · rfl
    · exact fun modified => modified (congrArg r.sha256 texts)
  rw [Verifier.verify, valid]
  exact scope

theorem Accepts.bound (collisionFree : Function.Injective r.sha256)
    (accepted : r.Accepts request (r.create tokenId binding approver nonce) now)
    (alike : CutAlike (r.currentBinding request (r.create tokenId binding approver nonce)) binding) :
    r.Bound request (r.create tokenId binding approver nonce) binding := by
  obtain ⟨workspaceId, texts⟩ := accepted.texts collisionFree
  obtain ⟨agentId, taskId, recommendationId, repo, baseBranch, targetBranch, files, payload, nonce⟩ :=
    eq_of_bindingText texts.symm workspaceId.symm rfl alike
  refine ⟨workspaceId.symm, agentId, taskId, recommendationId, repo, baseBranch, targetBranch,
    fun file => ?_, payload, fun changes same => ?_, rfl, nonce⟩
  · have sorted : sortedFiles request.scopedFiles = sortedFiles binding.scopedFiles := files
    rw [← mem_sortedFiles, sorted, mem_sortedFiles]
  · exact changes_perm collisionFree (payload.trans same.symm)

theorem Bound.cutAlike (distinct : request.scopedFiles.Nodup) (distinct' : binding.scopedFiles.Nodup)
    (bound : r.Bound request (r.create tokenId binding approver nonce) binding) :
    CutAlike (r.currentBinding request (r.create tokenId binding approver nonce)) binding where
  agentId := congrArg List.length bound.agentId
  taskId := congrArg List.length bound.taskId
  recommendationId := congrArg List.length bound.recommendationId
  repo := congrArg List.length bound.repo
  baseBranch := congrArg List.length bound.baseBranch
  targetBranch := congrArg List.length bound.targetBranch
  scopedFiles := congrArg (List.map List.length)
    (sortedFiles_eq distinct distinct' bound.scopedFiles)
  changePayloadHash := congrArg List.length bound.changePayloadHash

/-- Approval: an accepted request is the approved change if the separators stand in the
    same places of both, and only then if no file is listed twice.  The fingerprint of a change
    map determines it; the signed text determines its fields where it is cut alike. -/
theorem approval_binds_change (r : Runtime) (collisionFree : Function.Injective r.sha256)
    (macFree : Function.Injective r.hmac) (instants : Function.Injective r.isoformat) :
    (∀ request binding tokenId approver nonce now,
      r.Accepts request (r.create tokenId binding approver nonce) now →
      (CutAlike (r.currentBinding request (r.create tokenId binding approver nonce)) binding →
        r.Bound request (r.create tokenId binding approver nonce) binding) ∧
      (request.scopedFiles.Nodup → binding.scopedFiles.Nodup →
        r.Bound request (r.create tokenId binding approver nonce) binding →
        CutAlike (r.currentBinding request (r.create tokenId binding approver nonce)) binding)) ∧
    (∀ changes changes', r.computePayloadHash changes = r.computePayloadHash changes' →
      changes.Perm changes') ∧
    ∀ a b : ApprovalToken, r.hmac (r.verifier.sigData a) = r.hmac (r.verifier.sigData b) →
      (signedFields a = signedFields b ↔ SignedAlike a b) := by
  refine ⟨fun request binding tokenId approver nonce now accepted => ?_,
    fun _ _ same => changes_perm collisionFree same, fun a b same => ⟨fun fields => ?_, fun alike => ?_⟩⟩
  · exact ⟨accepted.bound collisionFree, Bound.cutAlike⟩
  · simp only [signedFields, Prod.mk.injEq] at fields
    obtain ⟨tokenId, bindingHash, workspaceId, approver, -⟩ := fields
    exact ⟨congrArg _ tokenId, congrArg _ bindingHash, congrArg _ workspaceId, congrArg _ approver⟩
  · exact signedFields_eq instants (macFree same) alike

/-! ## A change that was not approved -/

/-- A function that is known at some arguments and leaves the others apart. -/
def pinned (table : List (Str × Str)) (s : Str) : Str :=
  match table.lookup s with
  | some digest => digest
  | none => 'x' :: s

theorem pinned_injective {table : List (Str × Str)} (distinct : (table.map Prod.snd).Nodup)
    (marked : ∀ entry ∈ table, entry.2.head? ≠ some 'x') : Function.Injective (pinned table) := by
  have member : ∀ {s digest : Str}, table.lookup s = some digest → (s, digest) ∈ table := by
    intro s digest found
    obtain ⟨front, back, rfl, -⟩ := List.lookup_eq_some_iff.mp found
    simp
  intro s t same
  simp only [pinned] at same
  cases first : table.lookup s with
  | none =>
    cases second : table.lookup t with
    | none => simpa [first, second] using same
    | some digest =>
      simp only [first, second] at same
      exact absurd (by rw [← same]; rfl) (marked _ (member second))
  | some digest =>
    cases second : table.lookup t with
    | none =>
      simp only [first, second] at same
      exact absurd (by rw [same]; rfl) (marked _ (member first))
    | some digest' =>
      simp only [first, second] at same
      subst same
      have entries := List.inj_on_of_nodup_map distinct (member first) (member second) rfl
      exact congrArg Prod.fst entries

def payloadHash : Str := "d66d39f51059520cf9b812936eb5da22ad4cfac092cfe4d40d0ef9f0c5bc22af"

def approvedHash : Str := "14415fa4e5e7dd81eba751ba69b269883649dfe6f15bbef284dd45fb8384da64"

def expiryText : Str := "2024-03-16T12:00:00+00:00"

def expiryTime : Time := 1710590400000000

def demo : Runtime where
  sha256 := pinned
    [("[[\"src/app.py\", \"print(1)\\n\"]]", payloadHash),
      ("default|agent-1|task-1|rec-1|acme/app|main|hotfix|opt|src/*.py|" ++ payloadHash ++ "|" ++
        expiryText ++ "|n-1", approvedHash)]
  hmac := pinned
    [("appr-1:" ++ approvedHash ++ ":default:alice:" ++ expiryText,
      "e3aa3a1877fdc1f0583c8f63b32158b9f3db2a0ebc446c82521e76559a83d65c")]
  isoformat time :=
    if time = expiryTime then expiryText
    else (if time < 0 then '-' else '+') :: List.replicate time.natAbs '0'
  lower := Library.lower
  strList _ := []

/-- Approved: `opt` on top of `main|hotfix`. -/
def approved : ExecutionBinding where
  workspaceId := "default"
  agentId := "agent-1"
  taskId := "task-1"
  recommendationId := "rec-1"
  repo := "acme/app"
  baseBranch := "main|hotfix"
  targetBranch := "opt"
  scopedFiles := [("src/*.py" : Str)]
  changePayloadHash := payloadHash
  expiresAt := expiryTime
  nonce := "n-1"

def requestOn (baseBranch targetBranch : Str) : ExecutionRequest where
  executionId := "exec-1"
  workspaceId := "default"
  agentId := "agent-1"
  taskId := "task-1"
  recommendationId := "rec-1"
  repo := "acme/app"
  baseBranch := baseBranch
  targetBranch := targetBranch
  scopedFiles := [("src/*.py" : Str)]
  changes := [("src/app.py", "print(1)\n")]
  idempotencyKey := "key-1"

def approval : ApprovalToken := demo.create "appr-1" approved "alice" "n-1"

theorem computePayloadHash_requestOn (baseBranch targetBranch : Str) :
    demo.computePayloadHash (requestOn baseBranch targetBranch).changes = payloadHash := by
  have sorted : sortedChanges (requestOn baseBranch targetBranch).changes =
      [(("src/app.py" : Str), ("print(1)\n" : Str))] := List.mergeSort_singleton _
  have digest : demo.sha256 (dumpsPairs [("src/app.py", "print(1)\n")]) = payloadHash := by
    decide +kernel
  exact (congrArg (fun changes => demo.sha256 (dumpsPairs changes)) sorted).trans digest

theorem bindingText_eq {r : Runtime} {a : ExecutionBinding} {baseBranch targetBranch : Str}
    (reads : baseBranch ++ '|' :: targetBranch = a.baseBranch ++ '|' :: a.targetBranch) :
    r.bindingText a = r.bindingText { a with baseBranch, targetBranch } := by
  have regroup : ∀ rest : Str, a.baseBranch ++ '|' :: (a.targetBranch ++ rest) =
      baseBranch ++ '|' :: (targetBranch ++ rest) := by
    intro rest
    rw [← List.cons_append, ← List.append_assoc, ← reads, List.append_assoc, List.cons_append]
  simp only [bindingText, regroup]

/-- Requests whose branches read like the approved ones are accepted. -/
theorem requestOn_accepted {baseBranch targetBranch : Str}
    (reads : baseBranch ++ '|' :: targetBranch = "main|hotfix|opt".toList)
    (scope : demo.validateScope (requestOn baseBranch targetBranch) = .ok ()) :
    demo.Accepts (requestOn baseBranch targetBranch) approval 1710504000000000 := by
  have current : demo.currentBinding (requestOn baseBranch targetBranch) approval =
      { approved with baseBranch, targetBranch } := by
    rw [currentBinding, computePayloadHash_requestOn]
    rfl
  apply accepts_of_texts rfl _ (by decide) scope
  exact (bindingText_eq reads).trans (congrArg demo.bindingText current.symm)

/-- `hotfix|opt` on top of `main` is accepted too. -/
theorem other_branch_accepted :
    demo.Accepts (requestOn "main" "hotfix|opt") approval 1710504000000000 ∧
      ¬ demo.Bound (requestOn "main" "hotfix|opt") approval approved := by
  refine ⟨requestOn_accepted rfl rfl, fun bound => ?_⟩
  exact absurd bound.baseBranch (by decide)

theorem demo_collisionFree : Function.Injective demo.sha256 := by
  apply pinned_injective
  · decide
  · intro entry member
    simp only [List.mem_cons, List.not_mem_nil, or_false] at member
    obtain rfl | rfl := member <;> decide

theorem demo_macFree : Function.Injective demo.hmac := by
  apply pinned_injective
  · decide
  · intro entry member
    simp only [List.mem_cons, List.not_mem_nil, or_false] at member
    obtain rfl := member
    decide

theorem int_eq {a b : Int}
    (sign : (if a < 0 then '-' else '+') = if b < 0 then '-' else '+')
    (magnitude : a.natAbs = b.natAbs) : a = b := by
  split_ifs at sign <;> first | omega | cases sign

theorem demo_instants : Function.Injective demo.isoformat := by
  have marked : ∀ time : Time,
      (if time < 0 then '-' else '+') :: List.replicate time.natAbs '0' ≠ expiryText := by
    intro time same
    have first := congrArg List.head? same
    split at first <;> cases first
  intro a b same
  simp only [demo] at same
  by_cases first : a = expiryTime <;> by_cases second : b = expiryTime
  · exact first.trans second.symm
  · rw [if_pos first, if_neg second] at same
    exact absurd same.symm (marked b)
  · rw [if_neg first, if_pos second] at same
    exact absurd same (marked a)
  · rw [if_neg first, if_neg second] at same
    obtain ⟨sign, digits⟩ := List.cons.inj same
    have magnitude : a.natAbs = b.natAbs := by simpa using congrArg List.length digits
    exact int_eq sign magnitude

/-- The approved change itself is accepted, and bound. -/
theorem approved_change_bound :
    demo.Accepts (requestOn "main|hotfix" "opt") approval 1710504000000000 ∧
      demo.Bound (requestOn "main|hotfix" "opt") approval approved := by
  have accepted : demo.Accepts (requestOn "main|hotfix" "opt") approval 1710504000000000 :=
    requestOn_accepted rfl rfl
  have alike : CutAlike (demo.currentBinding (requestOn "main|hotfix" "opt") approval) approved := by
    refine ⟨rfl, rfl, rfl, rfl, rfl, rfl, rfl, ?_⟩
    exact congrArg List.length (computePayloadHash_requestOn "main|hotfix" "opt")
  exact ⟨accepted, ((approval_binds_change demo demo_collisionFree demo_macFree demo_instants).1
    _ approved "appr-1" "alice" "n-1" _ accepted).1 alike⟩

end Runtime

end BurnLens.Execution
