import BurnLens.Config

/-! # Assisted execution: requests and approvals -/

namespace BurnLens.Execution

open Library

structure ExecutionRequest where
  executionId : Str
  workspaceId : Str
  agentId : Str
  taskId : Str
  recommendationId : Str
  repo : Str
  baseBranch : Str
  targetBranch : Str
  scopedFiles : List Str
  changes : List (Str × Str)
  idempotencyKey : Str

structure ApprovalToken where
  tokenId : Str
  bindingHash : Str
  workspaceId : Str
  approver : Str
  expiresAt : Time
  signature : Str
  consumed : Bool
  nonce : Str

/-- The pure functions that the service calls: the keyed hash of a signature, the hash of
    the binding of a request, the text of an instant, and `validate_scope`. -/
structure Verifier where
  sign : Str → Str
  isoformat : Time → Str
  bindingHash : ExecutionRequest → ApprovalToken → Str
  validateScope : ExecutionRequest → Except Str Unit

namespace Verifier

variable (v : Verifier)

def sigData (token : ApprovalToken) : Str :=
  token.tokenId ++ ":" ++ token.bindingHash ++ ":" ++ token.workspaceId ++ ":" ++
    token.approver ++ ":" ++ v.isoformat token.expiresAt

/-- `ApprovalToken.is_valid`: integrity, binding, expiry, then consumption. -/
def isValid (token : ApprovalToken) (currentBindingHash : Str) (now : Time) :
    Except Str Unit :=
  if token.signature ≠ v.sign (v.sigData token) then
    .error "APPROVAL_INVALIDATED: Invalid approval signature"
  else if token.bindingHash ≠ currentBindingHash then
    .error "APPROVAL_INVALIDATED: Scope, target, or change payload modified after approval"
  else if token.expiresAt < now then
    .error ("APPROVAL_EXPIRED: Token expired at " ++ v.isoformat token.expiresAt)
  else if token.consumed then
    .error "APPROVAL_ALREADY_CONSUMED: Token was already used for execution"
  else .ok ()

/-- Steps 3 to 5 of `execute`: what stands between the stored token and its consumption. -/
def verify (request : ExecutionRequest) (token : ApprovalToken) (now : Time) :
    Except Str Unit := do
  v.isValid token (v.bindingHash request token) now
  v.validateScope request

theorem not_consumed_of_verify {request : ExecutionRequest} {token : ApprovalToken} {now : Time}
    (verified : v.verify request token now = .ok ()) : token.consumed = false := by
  simp only [verify, isValid] at verified
  cases consumed : token.consumed with
  | false => rfl
  | true =>
    simp only [consumed, if_true] at verified
    split_ifs at verified <;> cases verified

theorem bindingHash_of_verify {request : ExecutionRequest} {token : ApprovalToken} {now : Time}
    (verified : v.verify request token now = .ok ()) :
    token.bindingHash = v.bindingHash request token := by
  by_contra modified
  simp only [verify, isValid, ne_eq, modified, not_false_eq_true, if_true] at verified
  split_ifs at verified <;> cases verified

end Verifier

end BurnLens.Execution
